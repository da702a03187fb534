import QueryDispatch.Text.RunTable

/-! # Characters of names

  Names are compared without regard to case and to the form in which a letter
  is written. So each character of a name stands for itself, or for others in
  its place, or for nothing; and most characters cannot stand in a name at all.
-/

namespace QueryDispatch

/-- What becomes of a run of characters in names. -/
inductive NameRule where
  | keep
  | drop
  | refuse
  /-- Every other character, beginning with the first, stands for the one behind it. -/
  | pairs
  /-- Each stands for the character so far above it. -/
  | up (distance : Nat)
  /-- Each stands for the character so far below it. -/
  | down (distance : Nat)
  /-- Each stands for the characters in its place of the list. -/
  | list (characters : List (List Char))
  deriving DecidableEq, Repr

namespace NameRule

/-- Reads a rule. In a list the entries are separated by commas, and their characters by `_`. -/
def read : List Char → NameRule
  | ['v'] => .keep
  | ['i'] => .drop
  | ['p'] => .pairs
  | '+' :: distance => .up (Text.hexNumber distance)
  | '-' :: distance => .down (Text.hexNumber distance)
  | '=' :: entries =>
    .list ((Text.splitAt ',' entries).map fun entry => (Text.splitAt '_' entry).map Text.hexChar)
  | _ => .refuse

/-- The rules for the characters beyond ASCII. -/
def table : Text.RunTable NameRule := .read read
  "80x A0=20 A1v A8=20_308 A9v AA=61 ABv ADi AEv AF=20_304 B0v B2=32,33,20_301,3BC B6v
   B8=20_327,31,6F BBv BC=31_2044_34,31_2044_32,33_2044_34 BFv C0+20 D7v D8+20 DFv 100p
   130=69_307 131v 132=69_6A,69_6A 134p 138v 139p 13F=6C_B7,6C_B7 141p 149=2BC_6E 14Ap 178=FF
   179p 17F=73 180v 181=253 182p 186=254,188 188v 189=256,257,18C 18Cv 18E=1DD,259,25B,192 192v
   193=260,263 195v 196=269,268,199 199v 19C=26F,272 19Ev 19F=275 1A0p 1A6=280,1A8 1A8v 1A9=283
   1AAv 1AC=1AD 1ADv 1AE=288,1B0 1B0v 1B1=28A,28B 1B3p 1B7=292,1B9 1B9v 1BC=1BD 1BDv
   1C4=64_17E,64_17E,64_17E,6C_6A,6C_6A,6C_6A,6E_6A,6E_6A,6E_6A 1CDp 1DDv 1DEp 1F0v
   1F1=64_7A,64_7A,64_7A,1F5 1F5v 1F6=195,1BF 1F8p 220=19E 221v 222p 234v 23A=2C65,23C 23Cv
   23D=19A,2C66 23Fv 241=242 242v 243=180,289,28C 246p 250v 2B0=68,266,6A,72,279,27B,281,77,79
   2B9v 2D8=20_306,20_307,20_30A,20_328,20_303,20_30B 2DEv 2E0=263,6C,73,78,295 2E5v 340=300,301
   342v 343=313,308_301,3B9 346v 34Fi 350v 370p 374=2B9 375v 376=377 377v 378x 37A=20_3B9 37Bv
   37E=3B,3F3 380x 384=20_301,20_308_301,3AC,B7,3AD,3AE,3AF 38Bx 38C=3CC 38Dx 38E=3CD,3CE 390v
   391+20 3A2x 3A3+20 3ACv 3CF=3D7,3B2,3B8,3C5,3CD,3CB,3C6,3C0 3D7v 3D8p 3F0=3BA,3C1,3C3 3F3v
   3F4=3B8,3B5 3F6v 3F7=3F8 3F8v 3F9=3C3,3FB 3FBv 3FD=37B,37C,37D 400+50 410+20 430v 460p 482v
   48Ap 4C0=4CF 4C1p 4CFv 4D0p 530x 531+30 557x 559v 587=565_582 588v 58Bx 58Dv 590x 591v 5C8x
   5D0v 5EBx 5EFv 5F5x 606v 61Cx 61Dv 675=627_674,648_674,6C7_674,64A_674 679v 6DDx 6DEv 70Ex
   710v 74Bx 74Dv 7B2x 7C0v 7FBx 7FDv 82Ex 830v 83Fx 840v 85Cx 85Ev 85Fx 860v 86Bx 870v 890x 897v
   8E2x 8E3v 958=915_93C,916_93C,917_93C,91C_93C,921_93C,922_93C,92B_93C,92F_93C 960v 984x 985v
   98Dx 98Fv 991x 993v 9A9x 9AAv 9B1x 9B2v 9B3x 9B6v 9BAx 9BCv 9C5x 9C7v 9C9x 9CBv 9CFx 9D7v 9D8x
   9DC=9A1_9BC,9A2_9BC 9DEx 9DF=9AF_9BC 9E0v 9E4x 9E6v 9FFx A01v A04x A05v A0Bx A0Fv A11x A13v
   A29x A2Av A31x A32v A33=A32_A3C A34x A35v A36=A38_A3C A37x A38v A3Ax A3Cv A3Dx A3Ev A43x A47v
   A49x A4Bv A4Ex A51v A52x A59=A16_A3C,A17_A3C,A1C_A3C A5Cv A5Dx A5E=A2B_A3C A5Fx A66v A77x A81v
   A84x A85v A8Ex A8Fv A92x A93v AA9x AAAv AB1x AB2v AB4x AB5v ABAx ABCv AC6x AC7v ACAx ACBv ACEx
   AD0v AD1x AE0v AE4x AE6v AF2x AF9v B00x B01v B04x B05v B0Dx B0Fv B11x B13v B29x B2Av B31x B32v
   B34x B35v B3Ax B3Cv B45x B47v B49x B4Bv B4Ex B55v B58x B5C=B21_B3C,B22_B3C B5Ex B5Fv B64x B66v
   B78x B82v B84x B85v B8Bx B8Ev B91x B92v B96x B99v B9Bx B9Cv B9Dx B9Ev BA0x BA3v BA5x BA8v BABx
   BAEv BBAx BBEv BC3x BC6v BC9x BCAv BCEx BD0v BD1x BD7v BD8x BE6v BFBx C00v C0Dx C0Ev C11x C12v
   C29x C2Av C3Ax C3Cv C45x C46v C49x C4Av C4Ex C55v C57x C58v C5Bx C5Cv C5Ex C60v C64x C66v C70x
   C77v C8Dx C8Ev C91x C92v CA9x CAAv CB4x CB5v CBAx CBCv CC5x CC6v CC9x CCAv CCEx CD5v CD7x CDCv
   CDFx CE0v CE4x CE6v CF0x CF1v CF4x D00v D0Dx D0Ev D11x D12v D45x D46v D49x D4Av D50x D54v D64x
   D66v D80x D81v D84x D85v D97x D9Av DB2x DB3v DBCx DBDv DBEx DC0v DC7x DCAv DCBx DCFv DD5x DD6v
   DD7x DD8v DE0x DE6v DF0x DF2v DF5x E01v E33=E4D_E32 E34v E3Bx E3Fv E5Cx E81v E83x E84v E85x
   E86v E8Bx E8Cv EA4x EA5v EA6x EA7v EB3=ECD_EB2 EB4v EBEx EC0v EC5x EC6v EC7x EC8v ECFx ED0v
   EDAx EDC=EAB_E99,EAB_EA1 EDEv EE0x F00v F0C=F0B F0Dv F43=F42_FB7 F44v F48x F49v F4D=F4C_FB7
   F4Ev F52=F51_FB7 F53v F57=F56_FB7 F58v F5C=F5B_FB7 F5Dv F69=F40_FB5 F6Av F6Dx F71v F73=F71_F72
   F74v F75=F71_F74,FB2_F80,FB2_F71_F80,FB3_F80,FB3_F71_F80 F7Av F81=F71_F80 F82v F93=F92_FB7
   F94v F98x F99v F9D=F9C_FB7 F9Ev FA2=FA1_FB7 FA3v FA7=FA6_FB7 FA8v FAC=FAB_FB7 FADv FB9=F90_FB5
   FBAv FBDx FBEv FCDx FCEv FDBx 1000v 10A0+1C60 10C6x 10C7=2D27 10C8x 10CD=2D2D 10CEx 10D0v
   10FC=10DC 10FDv 115Fi 1161v 1249x 124Av 124Ex 1250v 1257x 1258v 1259x 125Av 125Ex 1260v 1289x
   128Av 128Ex 1290v 12B1x 12B2v 12B6x 12B8v 12BFx 12C0v 12C1x 12C2v 12C6x 12C8v 12D7x 12D8v
   1311x 1312v 1316x 1318v 135Bx 135Dv 137Dx 1380v 139Ax 13A0v 13F6x 13F8-8 13FEx 1400v 1680x
   1681v 169Dx 16A0v 16F9x 1700v 1716x 171Fv 1737x 1740v 1754x 1760v 176Dx 176Ev 1771x 1772v
   1774x 1780v 17B4i 17B6v 17DEx 17E0v 17EAx 17F0v 17FAx 1800v 180Bi 1810v 181Ax 1820v 1879x
   1880v 18ABx 18B0v 18F6x 1900v 191Fx 1920v 192Cx 1930v 193Cx 1940v 1941x 1944v 196Ex 1970v
   1975x 1980v 19ACx 19B0v 19CAx 19D0v 19DBx 19DEv 1A1Cx 1A1Ev 1A5Fx 1A60v 1A7Dx 1A7Fv 1A8Ax
   1A90v 1A9Ax 1AA0v 1AAEx 1AB0v 1ADEx 1AE0v 1AECx 1B00v 1B4Dx 1B4Ev 1BF4x 1BFCv 1C38x 1C3Bv
   1C4Ax 1C4Dv 1C80=432,434,43E,441,442,442,44A,463,A64B,1C8A 1C8Av 1C8Bx 1C90-BC0 1CBBx
   1CBD=10FD,10FE,10FF 1CC0v 1CC8x 1CD0v 1CFBx 1D00v 1D2C=61,E6,62 1D2Fv 1D30=64,65,1DD 1D33-1CCC
   1D3Bv 1D3C=6F,223,70,72,74,75,77,61,250,251,1D02,62,64,65,259,25B,25C,67 1D4Ev
   1D4F=6B,6D,14B,6F,254,1D16,1D17,70,74,75,1D1D,26F,76,1D25,3B2,3B3,3B4,3C6,3C7,69,72
   1D64=75,76,3B2,3B3,3C1,3C6,3C7 1D6Bv 1D78=43D 1D79v
   1D9B=252,63,255,F0,25C,66,25F,261,265,268,269,26A,1D7B,29D,26D,1D85,29F,271,270 1DAE-1B3C
   1DB2=278,282,283,1AB,289,28A,1D1C,28B,28C,7A,290,291,292,3B8 1DC0v 1E00p 1E96v
   1E9A=61_2BE,1E61 1E9Cv 1E9E=DF 1E9Fv 1EA0p 1F00v 1F08-8 1F10v 1F16x 1F18-8 1F1Ex 1F20v 1F28-8
   1F30v 1F38-8 1F40v 1F46x 1F48-8 1F4Ex 1F50v 1F58x 1F59=1F51 1F5Ax 1F5B=1F53 1F5Cx 1F5D=1F55
   1F5Ex 1F5F=1F57 1F60v 1F68-8 1F70v 1F71=3AC 1F72v 1F73=3AD 1F74v 1F75=3AE 1F76v 1F77=3AF 1F78v
   1F79=3CC 1F7Av 1F7B=3CD 1F7Cv 1F7D=3CE 1F7Ex
   1F80=1F00_3B9,1F01_3B9,1F02_3B9,1F03_3B9,1F04_3B9,1F05_3B9,1F06_3B9,1F07_3B9
   1F88=1F00_3B9,1F01_3B9,1F02_3B9,1F03_3B9,1F04_3B9,1F05_3B9,1F06_3B9,1F07_3B9
   1F90=1F20_3B9,1F21_3B9,1F22_3B9,1F23_3B9,1F24_3B9,1F25_3B9,1F26_3B9,1F27_3B9
   1F98=1F20_3B9,1F21_3B9,1F22_3B9,1F23_3B9,1F24_3B9,1F25_3B9,1F26_3B9,1F27_3B9
   1FA0=1F60_3B9,1F61_3B9,1F62_3B9,1F63_3B9,1F64_3B9,1F65_3B9,1F66_3B9,1F67_3B9
   1FA8=1F60_3B9,1F61_3B9,1F62_3B9,1F63_3B9,1F64_3B9,1F65_3B9,1F66_3B9,1F67_3B9 1FB0v
   1FB2=1F70_3B9,3B1_3B9,3AC_3B9 1FB5x 1FB6v
   1FB7=1FB6_3B9,1FB0,1FB1,1F70,3AC,3B1_3B9,20_313,3B9,20_313,20_342,20_308_342
   1FC2=1F74_3B9,3B7_3B9,3AE_3B9 1FC5x 1FC6v
   1FC7=1FC6_3B9,1F72,3AD,1F74,3AE,3B7_3B9,20_313_300,20_313_301,20_313_342 1FD0v 1FD3=390 1FD4x
   1FD6v 1FD8=1FD0,1FD1,1F76,3AF 1FDCx 1FDD=20_314_300,20_314_301,20_314_342 1FE0v 1FE3=3B0 1FE4v
   1FE8=1FE0,1FE1,1F7A,3CD,1FE5,20_308_300,20_308_301,60 1FF0x 1FF2=1F7C_3B9,3C9_3B9,3CE_3B9
   1FF5x 1FF6v 1FF7=1FF6_3B9,1F78,3CC,1F7C,3CE,3C9_3B9,20_301,20_314 1FFFx
   2000=20,20,20,20,20,20,20,20,20,20,20 200Bi 200Cv 200Ex 2010v 2011=2010 2012v 2017=20_333
   2018v 2024x 2027v 2028x 202F=20 2030v 2033=2032_2032,2032_2032_2032 2035v
   2036=2035_2035,2035_2035_2035 2038v 203C=21_21 203Dv 203E=20_305 203Fv 2047=3F_3F,3F_21,21_3F
   204Av 2057=2032_2032_2032_2032 2058v 205F=20 2060i 2065x 206Ai 2070=30,69 2072x 2074-2040
   207A=2B,2212,3D,28,29,6E 2080-2050 208A=2B,2212,3D,28,29 208Fx 2090=61,65,6F,78,259,68
   2096-202B 209A=70,73,74 209Dx 20A0v 20A8=72_73 20A9v 20C2x 20D0v 20F1x
   2100=61_2F_63,61_2F_73,63,B0_63 2104v 2105=63_2F_6F,63_2F_75,25B 2108v
   2109=B0_66,67,68,68,68,68,127,69,69,6C,6C 2114v 2115=6E,6E_6F 2117v 2119=70,71,72,72,72 211Ev
   2120=73_6D,74_65_6C,74_6D 2123v 2124=7A 2125v 2126=3C9 2127v 2128=7A 2129v 212A=6B,E5,62,63
   212Ev 212F=65,65,66,214E,6D,6F 2135-1B65 2139=69 213Av 213B=66_61_78,3C0,3B3,3B3,3C0,2211
   2141v 2145=64,64,65,69,6A 214Av
   2150=31_2044_37,31_2044_39,31_2044_31_30,31_2044_33,32_2044_33,31_2044_35
   2156=32_2044_35,33_2044_35,34_2044_35,31_2044_36,35_2044_36,31_2044_38,33_2044_38
   215D=35_2044_38,37_2044_38,31_2044,69,69_69,69_69_69,69_76,76,76_69,76_69_69
   2167=76_69_69_69,69_78,78,78_69,78_69_69,6C,63,64,6D,69,69_69,69_69_69,69_76,76
   2175=76_69,76_69_69,76_69_69_69,69_78,78,78_69,78_69_69,6C,63,64,6D 2180v 2183=2184 2184v
   2189=30_2044_33 218Av 218Cx 2190v 222C=222B_222B,222B_222B_222B 222Ev
   222F=222E_222E,222E_222E_222E 2231v 2329=3008,3009 232Bv 242Ax 2440v 244Bx 2460-242F
   2469=31_30,31_31,31_32,31_33,31_34,31_35,31_36,31_37,31_38,31_39,32_30,28_31_29
   2475=28_32_29,28_33_29,28_34_29,28_35_29,28_36_29,28_37_29,28_38_29,28_39_29
   247D=28_31_30_29,28_31_31_29,28_31_32_29,28_31_33_29,28_31_34_29,28_31_35_29
   2483=28_31_36_29,28_31_37_29,28_31_38_29,28_31_39_29,28_32_30_29 2488x
   249C=28_61_29,28_62_29,28_63_29,28_64_29,28_65_29,28_66_29,28_67_29,28_68_29
   24A4=28_69_29,28_6A_29,28_6B_29,28_6C_29,28_6D_29,28_6E_29,28_6F_29,28_70_29
   24AC=28_71_29,28_72_29,28_73_29,28_74_29,28_75_29,28_76_29,28_77_29,28_78_29
   24B4=28_79_29,28_7A_29 24B6-2455 24D0-246F 24EA=30 24EBv 2A0C=222B_222B_222B_222B 2A0Dv
   2A74=3A_3A_3D,3D_3D,3D_3D_3D 2A77v 2ADC=2ADD_338 2ADDv 2B74x 2B76v 2C00+30 2C30v 2C60=2C61
   2C61v 2C62=26B,1D7D,27D 2C65v 2C67p 2C6D=251,271,250,252 2C71v 2C72=2C73 2C73v 2C75=2C76 2C76v
   2C7C=6A,76,23F,240 2C80p 2CE4v 2CEBp 2CEFv 2CF2=2CF3 2CF3v 2CF4x 2CF9v 2D26x 2D27v 2D28x 2D2Dv
   2D2Ex 2D30v 2D68x 2D6F=2D61 2D70v 2D71x 2D7Fv 2D97x 2DA0v 2DA7x 2DA8v 2DAFx 2DB0v 2DB7x 2DB8v
   2DBFx 2DC0v 2DC7x 2DC8v 2DCFx 2DD0v 2DD7x 2DD8v 2DDFx 2DE0v 2E5Ex 2E80v 2E9Ax 2E9Bv 2E9F=6BCD
   2EA0v 2EF3=9F9F 2EF4x
   2F00=4E00,4E28,4E36,4E3F,4E59,4E85,4E8C,4EA0,4EBA,513F,5165,516B,5182,5196,51AB
   2F0F=51E0,51F5,5200,529B,52F9,5315,531A,5338,5341,535C,5369,5382,53B6,53C8,53E3
   2F1E=56D7,571F,58EB,5902,590A,5915,5927,5973,5B50,5B80,5BF8,5C0F,5C22,5C38,5C6E
   2F2D=5C71,5DDB,5DE5,5DF1,5DFE,5E72,5E7A,5E7F,5EF4,5EFE,5F0B,5F13,5F50,5F61,5F73
   2F3C=5FC3,6208,6236,624B,652F,6534,6587,6597,65A4,65B9,65E0,65E5,66F0,6708,6728
   2F4B=6B20,6B62,6B79,6BB3,6BCB,6BD4,6BDB,6C0F,6C14,6C34,706B,722A,7236,723B,723F
   2F5A=7247,7259,725B,72AC,7384,7389,74DC,74E6,7518,751F,7528,7530,758B,7592,7676
   2F69=767D,76AE,76BF,76EE,77DB,77E2,77F3,793A,79B8,79BE,7A74,7ACB,7AF9,7C73,7CF8
   2F78=7F36,7F51,7F8A,7FBD,8001,800C,8012,8033,807F,8089,81E3,81EA,81F3,81FC,820C
   2F87=821B,821F,826E,8272,8278,864D,866B,8840,884C,8863,897E,898B,89D2,8A00,8C37
   2F96=8C46,8C55,8C78,8C9D,8D64,8D70,8DB3,8EAB,8ECA,8F9B,8FB0,8FB5,9091,9149,91C6
   2FA5=91CC,91D1,9577,9580,961C,96B6,96B9,96E8,9751,975E,9762,9769,97CB,97ED,97F3
   2FB4=9801,98A8,98DB,98DF,9996,9999,99AC,9AA8,9AD8,9ADF,9B25,9B2F,9B32,9B3C,9B5A
   2FC3=9CE5,9E75,9E7F,9EA5,9EBB,9EC3,9ECD,9ED1,9EF9,9EFD,9F0E,9F13,9F20,9F3B,9F4A
   2FD2=9F52,9F8D,9F9C,9FA0 2FD6x 3000=20 3001v 3002=2E 3003v 3036=3012 3037v 3038=5341,5344,5345
   303Bv 3040x 3041v 3097x 3099v 309B=20_3099,20_309A 309Dv 309F=3088_308A 30A0v 30FF=30B3_30C8
   3100x 3105v 3130x 3131=1100,1101,11AA,1102,11AC,11AD,1103,1104,1105 313A-1F8A
   3140=111A,1106,1107,1108,1121 3145-203C 314F-1FEE 3164i
   3165=1114,1115,11C7,11C8,11CC,11CE,11D3,11D7,11D9,111C,11DD,11DF,111D,111E,1120
   3174=1122,1123,1127,1129 3178-204D
   317D=1132,1136,1140,1147,114C,11F1,11F2,1157,1158,1159,1184,1185,1188,1191,1192
   318C=1194,119E,11A1 318Fx 3190v
   3192=4E00,4E8C,4E09,56DB,4E0A,4E2D,4E0B,7532,4E59,4E19,4E01,5929,5730,4EBA 31A0v 31E6x 31F0v
   3200=28_1100_29,28_1102_29,28_1103_29,28_1105_29,28_1106_29,28_1107_29,28_1109_29
   3207=28_110B_29,28_110C_29,28_110E_29,28_110F_29,28_1110_29,28_1111_29,28_1112_29
   320E=28_AC00_29,28_B098_29,28_B2E4_29,28_B77C_29,28_B9C8_29,28_BC14_29,28_C0AC_29
   3215=28_C544_29,28_C790_29,28_CC28_29,28_CE74_29,28_D0C0_29,28_D30C_29,28_D558_29
   321C=28_C8FC_29,28_C624_C804_29,28_C624_D6C4_29 321Fx
   3220=28_4E00_29,28_4E8C_29,28_4E09_29,28_56DB_29,28_4E94_29,28_516D_29,28_4E03_29
   3227=28_516B_29,28_4E5D_29,28_5341_29,28_6708_29,28_706B_29,28_6C34_29,28_6728_29
   322E=28_91D1_29,28_571F_29,28_65E5_29,28_682A_29,28_6709_29,28_793E_29,28_540D_29
   3235=28_7279_29,28_8CA1_29,28_795D_29,28_52B4_29,28_4EE3_29,28_547C_29,28_5B66_29
   323C=28_76E3_29,28_4F01_29,28_8CC7_29,28_5354_29,28_796D_29,28_4F11_29,28_81EA_29
   3243=28_81F3_29,554F,5E7C,6587,7B8F 3248v
   3250=70_74_65,32_31,32_32,32_33,32_34,32_35,32_36,32_37,32_38,32_39,33_30,33_31
   325C=33_32,33_33,33_34,33_35,1100,1102,1103,1105,1106,1107,1109,110B,110C 3269-215B
   326E=AC00,B098,B2E4,B77C,B9C8,BC14,C0AC,C544,C790,CC28,CE74,D0C0,D30C,D558
   327C=CC38_ACE0,C8FC_C758,C6B0 327Fv
   3280=4E00,4E8C,4E09,56DB,4E94,516D,4E03,516B,4E5D,5341,6708,706B,6C34,6728,91D1
   328F=571F,65E5,682A,6709,793E,540D,7279,8CA1,795D,52B4,79D8,7537,5973,9069,512A
   329E=5370,6CE8,9805,4F11,5199,6B63,4E0A,4E2D,4E0B,5DE6,53F3,533B,5B97,5B66,76E3
   32AD=4F01,8CC7,5354,591C,33_36,33_37,33_38,33_39,34_30,34_31,34_32,34_33,34_34
   32BA=34_35,34_36,34_37,34_38,34_39,35_30,31_6708,32_6708,33_6708,34_6708,35_6708
   32C5=36_6708,37_6708,38_6708,39_6708,31_30_6708,31_31_6708,31_32_6708,68_67
   32CD=65_72_67,65_76,6C_74_64,30A2,30A4,30A6,30A8,30AA,30AB,30AD,30AF,30B1,30B3,30B5
   32DB=30B7,30B9,30BB,30BD,30BF,30C1,30C4,30C6,30C8 32E4-21A 32EA=30D2,30D5,30D8,30DB 32EE-210
   32F3=30E4,30E6 32F5-20D 32FB-20C
   32FF=4EE4_548C,30A2_30D1_30FC_30C8,30A2_30EB_30D5_30A1,30A2_30F3_30DA_30A2
   3303=30A2_30FC_30EB,30A4_30CB_30F3_30B0,30A4_30F3_30C1,30A6_30A9_30F3
   3307=30A8_30B9_30AF_30FC_30C9,30A8_30FC_30AB_30FC,30AA_30F3_30B9,30AA_30FC_30E0
   330B=30AB_30A4_30EA,30AB_30E9_30C3_30C8,30AB_30ED_30EA_30FC,30AC_30ED_30F3
   330F=30AC_30F3_30DE,30AE_30AC,30AE_30CB_30FC,30AD_30E5_30EA_30FC
   3313=30AE_30EB_30C0_30FC,30AD_30ED,30AD_30ED_30B0_30E9_30E0
   3316=30AD_30ED_30E1_30FC_30C8_30EB,30AD_30ED_30EF_30C3_30C8,30B0_30E9_30E0
   3319=30B0_30E9_30E0_30C8_30F3,30AF_30EB_30BC_30A4_30ED,30AF_30ED_30FC_30CD
   331C=30B1_30FC_30B9,30B3_30EB_30CA,30B3_30FC_30DD,30B5_30A4_30AF_30EB
   3320=30B5_30F3_30C1_30FC_30E0,30B7_30EA_30F3_30B0,30BB_30F3_30C1,30BB_30F3_30C8
   3324=30C0_30FC_30B9,30C7_30B7,30C9_30EB,30C8_30F3,30CA_30CE,30CE_30C3_30C8
   332A=30CF_30A4_30C4,30D1_30FC_30BB_30F3_30C8,30D1_30FC_30C4,30D0_30FC_30EC_30EB
   332E=30D4_30A2_30B9_30C8_30EB,30D4_30AF_30EB,30D4_30B3,30D3_30EB
   3332=30D5_30A1_30E9_30C3_30C9,30D5_30A3_30FC_30C8,30D6_30C3_30B7_30A7_30EB
   3335=30D5_30E9_30F3,30D8_30AF_30BF_30FC_30EB,30DA_30BD,30DA_30CB_30D2
   3339=30D8_30EB_30C4,30DA_30F3_30B9,30DA_30FC_30B8,30D9_30FC_30BF
   333D=30DD_30A4_30F3_30C8,30DC_30EB_30C8,30DB_30F3,30DD_30F3_30C9,30DB_30FC_30EB
   3342=30DB_30FC_30F3,30DE_30A4_30AF_30ED,30DE_30A4_30EB,30DE_30C3_30CF
   3346=30DE_30EB_30AF,30DE_30F3_30B7_30E7_30F3,30DF_30AF_30ED_30F3,30DF_30EA
   334A=30DF_30EA_30D0_30FC_30EB,30E1_30AC,30E1_30AC_30C8_30F3,30E1_30FC_30C8_30EB
   334E=30E4_30FC_30C9,30E4_30FC_30EB,30E6_30A2_30F3,30EA_30C3_30C8_30EB,30EA_30E9
   3353=30EB_30D4_30FC,30EB_30FC_30D6_30EB,30EC_30E0,30EC_30F3_30C8_30B2_30F3
   3357=30EF_30C3_30C8,30_70B9,31_70B9,32_70B9,33_70B9,34_70B9,35_70B9,36_70B9,37_70B9
   3360=38_70B9,39_70B9,31_30_70B9,31_31_70B9,31_32_70B9,31_33_70B9,31_34_70B9
   3367=31_35_70B9,31_36_70B9,31_37_70B9,31_38_70B9,31_39_70B9,32_30_70B9,32_31_70B9
   336E=32_32_70B9,32_33_70B9,32_34_70B9,68_70_61,64_61,61_75,62_61_72,6F_76,70_63
   3377=64_6D,64_6D_32,64_6D_33,69_75,5E73_6210,662D_548C,5927_6B63,660E_6CBB
   337F=682A_5F0F_4F1A_793E,70_61,6E_61,3BC_61,6D_61,6B_61,6B_62,6D_62,67_62,63_61_6C
   3389=6B_63_61_6C,70_66,6E_66,3BC_66,3BC_67,6D_67,6B_67,68_7A,6B_68_7A,6D_68_7A
   3393=67_68_7A,74_68_7A,3BC_6C,6D_6C,64_6C,6B_6C,66_6D,6E_6D,3BC_6D,6D_6D,63_6D
   339E=6B_6D,6D_6D_32,63_6D_32,6D_32,6B_6D_32,6D_6D_33,63_6D_33,6D_33,6B_6D_33
   33A7=6D_2215_73,6D_2215_73_32,70_61,6B_70_61,6D_70_61,67_70_61,72_61_64
   33AE=72_61_64_2215_73,72_61_64_2215_73_32,70_73,6E_73,3BC_73,6D_73,70_76,6E_76
   33B6=3BC_76,6D_76,6B_76,6D_76,70_77,6E_77,3BC_77,6D_77,6B_77,6D_77,6B_3C9,6D_3C9 33C2x
   33C3=62_71,63_63,63_64,63_2215_6B_67 33C7x
   33C8=64_62,67_79,68_61,68_70,69_6E,6B_6B,6B_6D,6B_74,6C_6D,6C_6E,6C_6F_67,6C_78
   33D4=6D_62,6D_69_6C,6D_6F_6C,70_68 33D8x
   33D9=70_70_6D,70_72,73_72,73_76,77_62,76_2215_6D,61_2215_6D,31_65E5,32_65E5,33_65E5
   33E3=34_65E5,35_65E5,36_65E5,37_65E5,38_65E5,39_65E5,31_30_65E5,31_31_65E5
   33EB=31_32_65E5,31_33_65E5,31_34_65E5,31_35_65E5,31_36_65E5,31_37_65E5,31_38_65E5
   33F2=31_39_65E5,32_30_65E5,32_31_65E5,32_32_65E5,32_33_65E5,32_34_65E5,32_35_65E5
   33F9=32_36_65E5,32_37_65E5,32_38_65E5,32_39_65E5,33_30_65E5,33_31_65E5,67_61_6C 3400v A48Dx
   A490v A4C7x A4D0v A62Cx A640p A66Ev A680p A69C=44A,44C A69Ev A6F8x A700v A722p A730v A732p
   A770=A76F A771v A779p A77D=1D79 A77Ep A788v A78B=A78C A78Cv A78D=265 A78Ev A790p A794v A796p
   A7AA=266,25C,261,26C,26A A7AFv A7B0=29E,287,29D,AB53 A7B4p A7C4=A794,282,1D8E A7C7p A7CB=264
   A7CCp A7DC=19B A7DDx A7F1=73,63,66,71,A7F6 A7F6v A7F8=127,153 A7FAv A82Dx A830v A83Ax A840v
   A878x A880v A8C6x A8CEv A8DAx A8E0v A954x A95Fv A97Dx A980v A9CEx A9CFv A9DAx A9DEv A9FFx
   AA00v AA37x AA40v AA4Ex AA50v AA5Ax AA5Cv AAC3x AADBv AAF7x AB01v AB07x AB09v AB0Fx AB11v
   AB17x AB20v AB27x AB28v AB2Fx AB30v AB5C=A727,AB37,26B,AB52 AB60v AB69=28D AB6Av AB6Cx
   AB70-97D0 ABC0v ABEEx ABF0v ABFAx AC00v D7A4x D7B0v D7C7x D7CBv D7FCx
   F900=8C48,66F4,8ECA,8CC8,6ED1,4E32,53E5,9F9C,9F9C,5951,91D1,5587,5948,61F6,7669
   F90F=7F85,863F,87BA,88F8,908F,6A02,6D1B,70D9,73DE,843D,916A,99F1,4E82,5375,6B04
   F91E=721B,862D,9E1E,5D50,6FEB,85CD,8964,62C9,81D8,881F,5ECA,6717,6D6A,72FC,90CE
   F92D=4F86,51B7,52DE,64C4,6AD3,7210,76E7,8001,8606,865C,8DEF,9732,9B6F,9DFA,788C
   F93C=797F,7DA0,83C9,9304,9E7F,8AD6,58DF,5F04,7C60,807E,7262,78CA,8CC2,96F7,58D8
   F94B=5C62,6A13,6DDA,6F0F,7D2F,7E37,964B,52D2,808B,51DC,51CC,7A1C,7DBE,83F1,9675
   F95A=8B80,62CF,6A02,8AFE,4E39,5BE7,6012,7387,7570,5317,78FB,4FBF,5FA9,4E0D,6CCC
   F969=6578,7D22,53C3,585E,7701,8449,8AAA,6BBA,8FB0,6C88,62FE,82E5,63A0,7565,4EAE
   F978=5169,51C9,6881,7CE7,826F,8AD2,91CF,52F5,5442,5973,5EEC,65C5,6FFE,792A,95AD
   F987=9A6A,9E97,9ECE,529B,66C6,6B77,8F62,5E74,6190,6200,649A,6F23,7149,7489,79CA
   F996=7DF4,806F,8F26,84EE,9023,934A,5217,52A3,54BD,70C8,88C2,8AAA,5EC9,5FF5,637B
   F9A5=6BAE,7C3E,7375,4EE4,56F9,5BE7,5DBA,601C,73B2,7469,7F9A,8046,9234,96F6,9748
   F9B4=9818,4F8B,79AE,91B4,96B8,60E1,4E86,50DA,5BEE,5C3F,6599,6A02,71CE,7642,84FC
   F9C3=907C,9F8D,6688,962E,5289,677B,67F3,6D41,6E9C,7409,7559,786B,7D10,985E,516D
   F9D2=622E,9678,502B,5D19,6DEA,8F2A,5F8B,6144,6817,7387,9686,5229,540F,5C65,6613
   F9E1=674E,68A8,6CE5,7406,75E2,7F79,88CF,88E1,91CC,96E2,533F,6EBA,541D,71D0,7498
   F9F0=85FA,96A3,9C57,9E9F,6797,6DCB,81E8,7ACB,7B20,7C92,72C0,7099,8B58,4EC0,8336
   F9FF=523A,5207,5EA6,62D3,7CD6,5B85,6D1E,66B4,8F3B,884C,964D,898B,5ED3,5140,55C0 FA0Ev
   FA10=585A FA11v FA12=6674 FA13v FA15=51DE,732A,76CA,793C,795E,7965,798F,9756,7CBE,7FBD FA1Fv
   FA20=8612 FA21v FA22=8AF8 FA23v FA25=9038,90FD FA27v
   FA2A=98EF,98FC,9928,9DB4,90DE,96B7,4FAE,50E7,514D,52C9,52E4,5351,559D,5606,5668
   FA39=5840,58A8,5C64,5C6E,6094,6168,618E,61F2,654F,65E2,6691,6885,6D77,6E1A,6F22
   FA48=716E,722B,7422,7891,793E,7949,7948,7950,7956,795D,798D,798E,7A40,7A81,7BC0
   FA57=7DF4,7E09,7E41,7F72,8005,81ED,8279,8279,8457,8910,8996,8B01,8B39,8CD3,8D08
   FA66=8FB6,9038,96E3,97FF,983B,6075,242EE,8218 FA6Ex
   FA70=4E26,51B5,5168,4F80,5145,5180,52C7,52FA,559D,5555,5599,55E2,585A,58B3,5944
   FA7F=5954,5A62,5B28,5ED2,5ED9,5F69,5FAD,60D8,614E,6108,618E,6160,61F2,6234,63C4
   FA8E=641C,6452,6556,6674,6717,671B,6756,6B79,6BBA,6D41,6EDB,6ECB,6F22,701E,716E
   FA9D=77A7,7235,72AF,732A,7471,7506,753B,761D,761F,76CA,76DB,76F4,774A,7740,78CC
   FAAC=7AB1,7BC0,7C7B,7D5B,7DF4,7F3E,8005,8352,83EF,8779,8941,8986,8996,8ABF,8AF8
   FABB=8ACB,8B01,8AFE,8AED,8B39,8B8A,8D08,8F38,9072,9199,9276,967C,96E3,9756,97DB
   FACA=97FF,980B,983B,9B12,9F9C,2284A,22844,233D5,3B9D,4018,4039,25249,25CD0,27ED3
   FAD8=9F43,9F8E FADAx FB00=66_66,66_69,66_6C,66_66_69,66_66_6C,73_74,73_74 FB07x
   FB13=574_576,574_565,574_56B,57E_576,574_56D FB18x FB1D=5D9_5B4 FB1Ev
   FB1F=5F2_5B7,5E2,5D0,5D3,5D4,5DB,5DC,5DD,5E8,5EA,2B,5E9_5C1,5E9_5C2,5E9_5BC_5C1
   FB2D=5E9_5BC_5C2,5D0_5B7,5D0_5B8,5D0_5BC,5D1_5BC,5D2_5BC,5D3_5BC,5D4_5BC,5D5_5BC FB36=5D6_5BC
   FB37x FB38=5D8_5BC,5D9_5BC,5DA_5BC,5DB_5BC,5DC_5BC FB3Dx FB3E=5DE_5BC FB3Fx
   FB40=5E0_5BC,5E1_5BC FB42x FB43=5E3_5BC,5E4_5BC FB45x
   FB46=5E6_5BC,5E7_5BC,5E8_5BC,5E9_5BC,5EA_5BC,5D5_5B9,5D1_5BF,5DB_5BF,5E4_5BF
   FB4F=5D0_5DC,671,671,67B,67B,67B,67B,67E,67E,67E,67E,680,680,680,680,67A,67A,67A
   FB61=67A,67F,67F,67F,67F,679,679,679,679,6A4,6A4,6A4,6A4,6A6,6A6,6A6,6A6,684,684
   FB74=684,684,683,683,683,683,686,686,686,686,687,687,687,687,68D,68D,68C,68C,68E
   FB87=68E,688,688,698,698,691,691,6A9,6A9,6A9,6A9,6AF,6AF,6AF,6AF,6B3,6B3,6B3,6B3
   FB9A=6B1,6B1,6B1,6B1,6BA,6BA,6BB,6BB,6BB,6BB,6C0,6C0,6C1,6C1,6C1,6C1,6BE,6BE,6BE
   FBAD=6BE,6D2,6D2,6D3,6D3 FBB2v
   FBD3=6AD,6AD,6AD,6AD,6C7,6C7,6C6,6C6,6C8,6C8,6C7_674,6CB,6CB,6C5,6C5,6C9,6C9,6D0
   FBE5=6D0,6D0,6D0,649,649,626_627,626_627,626_6D5,626_6D5,626_648,626_648,626_6C7
   FBF1=626_6C7,626_6C6,626_6C6,626_6C8,626_6C8,626_6D0,626_6D0,626_6D0,626_649
   FBFA=626_649,626_649,6CC,6CC,6CC,6CC,626_62C,626_62D,626_645,626_649,626_64A
   FC05=628_62C,628_62D,628_62E,628_645,628_649,628_64A,62A_62C,62A_62D,62A_62E
   FC0E=62A_645,62A_649,62A_64A,62B_62C,62B_645,62B_649,62B_64A,62C_62D,62C_645
   FC17=62D_62C,62D_645,62E_62C,62E_62D,62E_645,633_62C,633_62D,633_62E,633_645
   FC20=635_62D,635_645,636_62C,636_62D,636_62E,636_645,637_62D,637_645,638_645
   FC29=639_62C,639_645,63A_62C,63A_645,641_62C,641_62D,641_62E,641_645,641_649
   FC32=641_64A,642_62D,642_645,642_649,642_64A,643_627,643_62C,643_62D,643_62E
   FC3B=643_644,643_645,643_649,643_64A,644_62C,644_62D,644_62E,644_645,644_649
   FC44=644_64A,645_62C,645_62D,645_62E,645_645,645_649,645_64A,646_62C,646_62D
   FC4D=646_62E,646_645,646_649,646_64A,647_62C,647_645,647_649,647_64A,64A_62C
   FC56=64A_62D,64A_62E,64A_645,64A_649,64A_64A,630_670,631_670,649_670,20_64C_651
   FC5F=20_64D_651,20_64E_651,20_64F_651,20_650_651,20_651_670,626_631,626_632,626_645
   FC67=626_646,626_649,626_64A,628_631,628_632,628_645,628_646,628_649,628_64A
   FC70=62A_631,62A_632,62A_645,62A_646,62A_649,62A_64A,62B_631,62B_632,62B_645
   FC79=62B_646,62B_649,62B_64A,641_649,641_64A,642_649,642_64A,643_627,643_644
   FC82=643_645,643_649,643_64A,644_645,644_649,644_64A,645_627,645_645,646_631
   FC8B=646_632,646_645,646_646,646_649,646_64A,649_670,64A_631,64A_632,64A_645
   FC94=64A_646,64A_649,64A_64A,626_62C,626_62D,626_62E,626_645,626_647,628_62C
   FC9D=628_62D,628_62E,628_645,628_647,62A_62C,62A_62D,62A_62E,62A_645,62A_647
   FCA6=62B_645,62C_62D,62C_645,62D_62C,62D_645,62E_62C,62E_645,633_62C,633_62D
   FCAF=633_62E,633_645,635_62D,635_62E,635_645,636_62C,636_62D,636_62E,636_645
   FCB8=637_62D,638_645,639_62C,639_645,63A_62C,63A_645,641_62C,641_62D,641_62E
   FCC1=641_645,642_62D,642_645,643_62C,643_62D,643_62E,643_644,643_645,644_62C
   FCCA=644_62D,644_62E,644_645,644_647,645_62C,645_62D,645_62E,645_645,646_62C
   FCD3=646_62D,646_62E,646_645,646_647,647_62C,647_645,647_670,64A_62C,64A_62D
   FCDC=64A_62E,64A_645,64A_647,626_645,626_647,628_645,628_647,62A_645,62A_647
   FCE5=62B_645,62B_647,633_645,633_647,634_645,634_647,643_644,643_645,644_645
   FCEE=646_645,646_647,64A_645,64A_647,640_64E_651,640_64F_651,640_650_651,637_649
   FCF6=637_64A,639_649,639_64A,63A_649,63A_64A,633_649,633_64A,634_649,634_64A
   FCFF=62D_649,62D_64A,62C_649,62C_64A,62E_649,62E_64A,635_649,635_64A,636_649
   FD08=636_64A,634_62C,634_62D,634_62E,634_645,634_631,633_631,635_631,636_631
   FD11=637_649,637_64A,639_649,639_64A,63A_649,63A_64A,633_649,633_64A,634_649
   FD1A=634_64A,62D_649,62D_64A,62C_649,62C_64A,62E_649,62E_64A,635_649,635_64A
   FD23=636_649,636_64A,634_62C,634_62D,634_62E,634_645,634_631,633_631,635_631
   FD2C=636_631,634_62C,634_62D,634_62E,634_645,633_647,634_647,637_645,633_62C
   FD35=633_62D,633_62E,634_62C,634_62D,634_62E,637_645,638_645,627_64B,627_64B FD3Ev
   FD50=62A_62C_645,62A_62D_62C,62A_62D_62C,62A_62D_645,62A_62E_645,62A_645_62C
   FD56=62A_645_62D,62A_645_62E,62C_645_62D,62C_645_62D,62D_645_64A,62D_645_649
   FD5C=633_62D_62C,633_62C_62D,633_62C_649,633_645_62D,633_645_62D,633_645_62C
   FD62=633_645_645,633_645_645,635_62D_62D,635_62D_62D,635_645_645,634_62D_645
   FD68=634_62D_645,634_62C_64A,634_645_62E,634_645_62E,634_645_645,634_645_645
   FD6E=636_62D_649,636_62E_645,636_62E_645,637_645_62D,637_645_62D,637_645_645
   FD74=637_645_64A,639_62C_645,639_645_645,639_645_645,639_645_649,63A_645_645
   FD7A=63A_645_64A,63A_645_649,641_62E_645,641_62E_645,642_645_62D,642_645_645
   FD80=644_62D_645,644_62D_64A,644_62D_649,644_62C_62C,644_62C_62C,644_62E_645
   FD86=644_62E_645,644_645_62D,644_645_62D,645_62D_62C,645_62D_645,645_62D_64A
   FD8C=645_62C_62D,645_62C_645,645_62E_62C,645_62E_645 FD90v
   FD92=645_62C_62E,647_645_62C,647_645_645,646_62D_645,646_62D_649,646_62C_645
   FD98=646_62C_645,646_62C_649,646_645_64A,646_645_649,64A_645_645,64A_645_645
   FD9E=628_62E_64A,62A_62C_64A,62A_62C_649,62A_62E_64A,62A_62E_649,62A_645_64A
   FDA4=62A_645_649,62C_645_64A,62C_62D_649,62C_645_649,633_62E_649,635_62D_64A
   FDAA=634_62D_64A,636_62D_64A,644_62C_64A,644_645_64A,64A_62D_64A,64A_62C_64A
   FDB0=64A_645_64A,645_645_64A,642_645_64A,646_62D_64A,642_645_62D,644_62D_645
   FDB6=639_645_64A,643_645_64A,646_62C_62D,645_62E_64A,644_62C_645,643_645_645
   FDBC=644_62C_645,646_62C_62D,62C_62D_64A,62D_62C_64A,645_62C_64A,641_645_64A
   FDC2=628_62D_64A,643_645_645,639_62C_645,635_645_645,633_62E_64A,646_62C_64A FDC8v FDD0x
   FDF0=635_644_6D2,642_644_6D2,627_644_644_647,627_643_628_631,645_62D_645_62F
   FDF5=635_644_639_645,631_633_648_644,639_644_64A_647,648_633_644_645,635_644_649
   FDFA=635_644_649_20_627_644_644_647_20_639_644_64A_647_20_648_633_644_645
   FDFB=62C_644_20_62C_644_627_644_647,631_6CC_627_644 FDFDv FE00i FE10=2C,3001 FE12x
   FE13=3A,3B,21,3F,3016,3017 FE19x FE20v FE30x
   FE31=2014,2013,5F,5F,28,29,7B,7D,3014,3015,3010,3011,300A,300B,3008,3009 FE41-CE35 FE45v
   FE47=5B,5D,20_305,20_305,20_305,20_305,5F,5F,5F,2C,3001 FE52x
   FE54=3B,3A,3F,21,2014,28,29,7B,7D,3014,3015,23,26,2A,2B,2D,3C,3E,3D FE67x FE68=5C,24,25,40
   FE6Cx FE70=20_64B,640_64B,20_64C FE73v FE74=20_64D FE75x
   FE76=20_64E,640_64E,20_64F,640_64F,20_650,640_650,20_651,640_651,20_652,640_652,621
   FE81=622,622,623,623,624,624,625,625,626,626,626,626,627,627,628,628,628,628,629
   FE94=629,62A,62A,62A,62A,62B,62B,62B,62B,62C,62C,62C,62C,62D,62D,62D,62D,62E,62E
   FEA7=62E,62E,62F,62F,630,630,631,631,632,632,633,633,633,633,634,634,634,634,635
   FEBA=635,635,635,636,636,636,636,637,637,637,637,638,638,638,638,639,639,639,639
   FECD=63A,63A,63A,63A,641,641,641,641,642,642,642,642,643,643,643,643,644,644,644
   FEE0=644,645,645,645,645,646,646,646,646,647,647,647,647,648,648,649,649,64A,64A
   FEF3=64A,64A,644_622,644_622,644_623,644_623,644_625,644_625,644_627,644_627 FEFDx FEFFi FF00x
   FF01-FEE0 FF21-FEC0 FF3B-FEE0
   FF5F=2985,2986,2E,300C,300D,3001,30FB,30F2,30A1,30A3,30A5,30A7,30A9,30E3,30E5,30E7
   FF6F=30C3,30FC,30A2,30A4,30A6,30A8,30AA,30AB,30AD,30AF,30B1,30B3,30B5,30B7,30B9
   FF7E=30BB,30BD,30BF,30C1,30C4,30C6,30C8 FF85-CEBB FF8B=30D2,30D5,30D8,30DB FF8F-CEB1
   FF94=30E4,30E6 FF96-CEAE FF9C=30EF,30F3,3099,309A FFA0i
   FFA1=1100,1101,11AA,1102,11AC,11AD,1103,1104,1105 FFAA-EDFA FFB0=111A,1106,1107,1108,1121
   FFB5-EEAC FFBFx FFC2-EE61 FFC8x FFCA-EE63 FFD0x FFD2-EE65 FFD8x FFDA=1173,1174,1175 FFDDx
   FFE0=A2,A3,AC,20_304,A6,A5,20A9 FFE7x FFE8=2502 FFE9-DE59 FFED=25A0,25CB FFEFx 10000v 1000Cx
   1000Dv 10027x 10028v 1003Bx 1003Cv 1003Ex 1003Fv 1004Ex 10050v 1005Ex 10080v 100FBx 10100v
   10103x 10107v 10134x 10137v 1018Fx 10190v 1019Dx 101A0v 101A1x 101D0v 101FEx 10280v 1029Dx
   102A0v 102D1x 102E0v 102FCx 10300v 10324x 1032Dv 1034Bx 10350v 1037Bx 10380v 1039Ex 1039Fv
   103C4x 103C8v 103D6x 10400+28 10428v 1049Ex 104A0v 104AAx 104B0+28 104D4x 104D8v 104FCx 10500v
   10528x 10530v 10564x 1056Fv 10570+27 1057Bx 1057C+27 1058Bx 1058C+27 10593x 10594=105BB,105BC
   10596x 10597v 105A2x 105A3v 105B2x 105B3v 105BAx 105BBv 105BDx 105C0v 105F4x 10600v 10737x
   10740v 10756x 10760v 10768x 10780v 10781=2D0,2D1,E6,299,253 10786x
   10787=2A3,AB66,2A5,2A4,256,257,1D91,258,25E,2A9,264,262,260,29B,127,29C,267,284,2AA
   1079A=2AB,26C,1DF04,A78E,26E,1DF05,28E,1DF06,F8,276,277,71,27A,1DF08,27D,27E,280,2A8
   107AC=2A6,AB67,2A7,288,2C71 107B1x 107B2=28F,2A1,2A2,298,1C0,1C1,1C2,1DF0A,1DF1E 107BBx 10800v
   10806x 10808v 10809x 1080Av 10836x 10837v 10839x 1083Cv 1083Dx 1083Fv 10856x 10857v 1089Fx
   108A7v 108B0x 108E0v 108F3x 108F4v 108F6x 108FBv 1091Cx 1091Fv 1093Ax 1093Fv 1095Ax 10980v
   109B8x 109BCv 109D0x 109D2v 10A04x 10A05v 10A07x 10A0Cv 10A14x 10A15v 10A18x 10A19v 10A36x
   10A38v 10A3Bx 10A3Fv 10A49x 10A50v 10A59x 10A60v 10AA0x 10AC0v 10AE7x 10AEBv 10AF7x 10B00v
   10B36x 10B39v 10B56x 10B58v 10B73x 10B78v 10B92x 10B99v 10B9Dx 10BA9v 10BB0x 10C00v 10C49x
   10C80+40 10CB3x 10CC0v 10CF3x 10CFAv 10D28x 10D30v 10D3Ax 10D40v 10D50+20 10D66x 10D69v 10D86x
   10D8Ev 10D90x 10E60v 10E7Fx 10E80v 10EAAx 10EABv 10EAEx 10EB0v 10EB2x 10EC2v 10EC8x 10ED0v
   10ED9x 10EFAv 10F28x 10F30v 10F5Ax 10F70v 10F8Ax 10FB0v 10FCCx 10FE0v 10FF7x 11000v 1104Ex
   11052v 11076x 1107Fv 110BDx 110BEv 110C3x 110D0v 110E9x 110F0v 110FAx 11100v 11135x 11136v
   11148x 11150v 11177x 11180v 111E0x 111E1v 111F5x 11200v 11212x 11213v 11242x 11280v 11287x
   11288v 11289x 1128Av 1128Ex 1128Fv 1129Ex 1129Fv 112AAx 112B0v 112EBx 112F0v 112FAx 11300v
   11304x 11305v 1130Dx 1130Fv 11311x 11313v 11329x 1132Av 11331x 11332v 11334x 11335v 1133Ax
   1133Bv 11345x 11347v 11349x 1134Bv 1134Ex 11350v 11351x 11357v 11358x 1135Dv 11364x 11366v
   1136Dx 11370v 11375x 11380v 1138Ax 1138Bv 1138Cx 1138Ev 1138Fx 11390v 113B6x 113B7v 113C1x
   113C2v 113C3x 113C5v 113C6x 113C7v 113CBx 113CCv 113D6x 113D7v 113D9x 113E1v 113E3x 11400v
   1145Cx 1145Dv 11462x 11480v 114C8x 114D0v 114DAx 11580v 115B6x 115B8v 115DEx 11600v 11645x
   11650v 1165Ax 11660v 1166Dx 11680v 116BAx 116C0v 116CAx 116D0v 116E4x 11700v 1171Bx 1171Dv
   1172Cx 11730v 11747x 11800v 1183Cx 118A0+20 118C0v 118F3x 118FFv 11907x 11909v 1190Ax 1190Cv
   11914x 11915v 11917x 11918v 11936x 11937v 11939x 1193Bv 11947x 11950v 1195Ax 119A0v 119A8x
   119AAv 119D8x 119DAv 119E5x 11A00v 11A48x 11A50v 11AA3x 11AB0v 11AF9x 11B00v 11B0Ax 11B60v
   11B68x 11BC0v 11BE2x 11BF0v 11BFAx 11C00v 11C09x 11C0Av 11C37x 11C38v 11C46x 11C50v 11C6Dx
   11C70v 11C90x 11C92v 11CA8x 11CA9v 11CB7x 11D00v 11D07x 11D08v 11D0Ax 11D0Bv 11D37x 11D3Av
   11D3Bx 11D3Cv 11D3Ex 11D3Fv 11D48x 11D50v 11D5Ax 11D60v 11D66x 11D67v 11D69x 11D6Av 11D8Fx
   11D90v 11D92x 11D93v 11D99x 11DA0v 11DAAx 11DB0v 11DDCx 11DE0v 11DEAx 11EE0v 11EF9x 11F00v
   11F11x 11F12v 11F3Bx 11F3Ev 11F5Bx 11FB0v 11FB1x 11FC0v 11FF2x 11FFFv 1239Ax 12400v 1246Fx
   12470v 12475x 12480v 12544x 12F90v 12FF3x 13000v 13430x 13440v 13456x 13460v 143FBx 14400v
   14647x 16100v 1613Ax 16800v 16A39x 16A40v 16A5Fx 16A60v 16A6Ax 16A6Ev 16ABFx 16AC0v 16ACAx
   16AD0v 16AEEx 16AF0v 16AF6x 16B00v 16B46x 16B50v 16B5Ax 16B5Bv 16B62x 16B63v 16B78x 16B7Dv
   16B90x 16D40v 16D7Ax 16E40+20 16E60v 16E9Bx 16EA0+1B 16EB9x 16EBBv 16ED4x 16F00v 16F4Bx 16F4Fv
   16F88x 16F8Fv 16FA0x 16FE0v 16FE5x 16FF0v 16FF7x 17000v 18CD6x 18CFFv 18D1Fx 18D80v 18DF3x
   1AFF0v 1AFF4x 1AFF5v 1AFFCx 1AFFDv 1AFFFx 1B000v 1B123x 1B132v 1B133x 1B150v 1B153x 1B155v
   1B156x 1B164v 1B168x 1B170v 1B2FCx 1BC00v 1BC6Bx 1BC70v 1BC7Dx 1BC80v 1BC89x 1BC90v 1BC9Ax
   1BC9Cv 1BCA0i 1BCA4x 1CC00v 1CCD6-1CC75 1CCF0-1CCC0 1CCFAv 1CCFDx 1CD00v 1CEB4x 1CEBAv 1CED1x
   1CEE0v 1CEF1x 1CF00v 1CF2Ex 1CF30v 1CF47x 1CF50v 1CFC4x 1D000v 1D0F6x 1D100v 1D127x 1D129v
   1D15E=1D157_1D165,1D158_1D165,1D158_1D165_1D16E,1D158_1D165_1D16F,1D158_1D165_1D170
   1D163=1D158_1D165_1D171,1D158_1D165_1D172 1D165v 1D173i 1D17Bv
   1D1BB=1D1B9_1D165,1D1BA_1D165,1D1B9_1D165_1D16E,1D1BA_1D165_1D16E,1D1B9_1D165_1D16F
   1D1C0=1D1BA_1D165_1D16F 1D1C1v 1D1EBx 1D200v 1D246x 1D2C0v 1D2D4x 1D2E0v 1D2F4x 1D300v 1D357x
   1D360v 1D379x 1D400-1D39F 1D41A-1D3B9 1D434-1D3D3 1D44E-1D3ED 1D455x 1D456-1D3ED 1D468-1D407
   1D482-1D421 1D49C=61 1D49Dx 1D49E=63,64 1D4A0x 1D4A2=67 1D4A3x 1D4A5=6A,6B 1D4A7x 1D4A9-1D43B
   1D4ADx 1D4AE-1D43B 1D4B6-1D455 1D4BAx 1D4BB=66 1D4BCx 1D4BD-1D455 1D4C4x 1D4C5-1D455
   1D4D0-1D46F 1D4EA-1D489 1D504=61,62 1D506x 1D507-1D4A3 1D50Bx 1D50D-1D4A3 1D515x 1D516-1D4A3
   1D51Dx 1D51E-1D4BD 1D538=61,62 1D53Ax 1D53B-1D4D7 1D53Fx 1D540-1D4D7 1D545x 1D546=6F 1D547x
   1D54A-1D4D7 1D551x 1D552-1D4F1 1D56C-1D50B 1D586-1D525 1D5A0-1D53F 1D5BA-1D559 1D5D4-1D573
   1D5EE-1D58D 1D608-1D5A7 1D622-1D5C1 1D63C-1D5DB 1D656-1D5F5 1D670-1D60F 1D68A-1D629
   1D6A4=131,237 1D6A6x 1D6A8-1D2F7 1D6B9=3B8 1D6BA-1D2F7 1D6C1=2207 1D6C2-1D311 1D6D3=3C3
   1D6D4-1D311 1D6DB=2202,3B5,3B8,3BA,3C6,3C1,3C0 1D6E2-1D331 1D6F3=3B8 1D6F4-1D331 1D6FB=2207
   1D6FC-1D34B 1D70D=3C3 1D70E-1D34B 1D715=2202,3B5,3B8,3BA,3C6,3C1,3C0 1D71C-1D36B 1D72D=3B8
   1D72E-1D36B 1D735=2207 1D736-1D385 1D747=3C3 1D748-1D385 1D74F=2202,3B5,3B8,3BA,3C6,3C1,3C0
   1D756-1D3A5 1D767=3B8 1D768-1D3A5 1D76F=2207 1D770-1D3BF 1D781=3C3 1D782-1D3BF
   1D789=2202,3B5,3B8,3BA,3C6,3C1,3C0 1D790-1D3DF 1D7A1=3B8 1D7A2-1D3DF 1D7A9=2207 1D7AA-1D3F9
   1D7BB=3C3 1D7BC-1D3F9 1D7C3=2202,3B5,3B8,3BA,3C6,3C1,3C0,3DD,3DD 1D7CCx 1D7CE-1D79E
   1D7D8-1D7A8 1D7E2-1D7B2 1D7EC-1D7BC 1D7F6-1D7C6 1D800v 1DA8Cx 1DA9Bv 1DAA0x 1DAA1v 1DAB0x
   1DF00v 1DF1Fx 1DF25v 1DF2Bx 1E000v 1E007x 1E008v 1E019x 1E01Bv 1E022x 1E023v 1E025x 1E026v
   1E02Bx 1E030-1DC00 1E039=43A,43B,43C 1E03C-1DBFE
   1E047=44B,44D,44E,A689,4D9,456,458,4E9,4AF,4CF 1E051-1DC21 1E05A=43A,43B,43E,43F,441
   1E05F-1DC1C 1E065=44A,44B,491,456,455,45F,4AB,A651,4B1 1E06Ex 1E08Fv 1E090x 1E100v 1E12Dx
   1E130v 1E13Ex 1E140v 1E14Ax 1E14Ev 1E150x 1E290v 1E2AFx 1E2C0v 1E2FAx 1E2FFv 1E300x 1E4D0v
   1E4FAx 1E5D0v 1E5FBx 1E5FFv 1E600x 1E6C0v 1E6DFx 1E6E0v 1E6F6x 1E6FEv 1E700x 1E7E0v 1E7E7x
   1E7E8v 1E7ECx 1E7EDv 1E7EFx 1E7F0v 1E7FFx 1E800v 1E8C5x 1E8C7v 1E8D7x 1E900+22 1E922v 1E94Cx
   1E950v 1E95Ax 1E95Ev 1E960x 1EC71v 1ECB5x 1ED01v 1ED3Ex 1EE00=627,628,62C,62F 1EE04x
   1EE05=648,632,62D,637,64A 1EE0A-1E7C7
   1EE0E=633,639,641,635,642,631,634,62A,62B,62E,630,636,638,63A,66E,6BA,6A1,66F 1EE20x
   1EE21=628,62C 1EE23x 1EE24=647 1EE25x 1EE27=62D 1EE28x 1EE29=64A 1EE2A-1E7E7
   1EE2E=633,639,641,635,642 1EE33x 1EE34=634,62A,62B,62E 1EE38x 1EE39=636 1EE3Ax 1EE3B=63A
   1EE3Cx 1EE42=62C 1EE43x 1EE47=62D 1EE48x 1EE49=64A 1EE4Ax 1EE4B=644 1EE4Cx 1EE4D=646,633,639
   1EE50x 1EE51=635,642 1EE53x 1EE54=634 1EE55x 1EE57=62E 1EE58x 1EE59=636 1EE5Ax 1EE5B=63A
   1EE5Cx 1EE5D=6BA 1EE5Ex 1EE5F=66F 1EE60x 1EE61=628,62C 1EE63x 1EE64=647 1EE65x
   1EE67=62D,637,64A,643 1EE6Bx 1EE6C=645,646,633,639,641,635,642 1EE73x 1EE74=634,62A,62B,62E
   1EE78x 1EE79=636,638,63A,66E 1EE7Dx 1EE7E=6A1 1EE7Fx
   1EE80=627,628,62C,62F,647,648,632,62D,637,64A 1EE8Ax
   1EE8B=644,645,646,633,639,641,635,642,631,634,62A,62B,62E,630,636,638,63A 1EE9Cx
   1EEA1=628,62C,62F 1EEA4x 1EEA5=648,632,62D,637,64A 1EEAAx
   1EEAB=644,645,646,633,639,641,635,642,631,634,62A,62B,62E,630,636,638,63A 1EEBCx 1EEF0v 1EEF2x
   1F000v 1F02Cx 1F030v 1F094x 1F0A0v 1F0AFx 1F0B1v 1F0C0x 1F0C1v 1F0D0x 1F0D1v 1F0F6x
   1F101=30_2C,31_2C,32_2C,33_2C,34_2C,35_2C,36_2C,37_2C,38_2C,39_2C 1F10Bv
   1F110=28_61_29,28_62_29,28_63_29,28_64_29,28_65_29,28_66_29,28_67_29,28_68_29
   1F118=28_69_29,28_6A_29,28_6B_29,28_6C_29,28_6D_29,28_6E_29,28_6F_29,28_70_29
   1F120=28_71_29,28_72_29,28_73_29,28_74_29,28_75_29,28_76_29,28_77_29,28_78_29
   1F128=28_79_29,28_7A_29,3014_73_3015,63,72,63_64,77_7A 1F12Fv 1F130-1F0CF
   1F14A=68_76,6D_76,73_64,73_73,70_70_76,77_63 1F150v 1F16A=6D_63,6D_64,6D_72 1F16Dv 1F190=64_6A
   1F191v 1F1AEx 1F1E6v 1F200=307B_304B,30B3_30B3,30B5 1F203x
   1F210=624B,5B57,53CC,30C7,4E8C,591A,89E3,5929,4EA4,6620,7121,6599,524D,5F8C,518D
   1F21F=65B0,521D,7D42,751F,8CA9,58F0,5439,6F14,6295,6355,4E00,4E09,904A,5DE6,4E2D
   1F22E=53F3,6307,8D70,6253,7981,7A7A,5408,6E80,6709,6708,7533,5272,55B6,914D 1F23Cx
   1F240=3014_672C_3015,3014_4E09_3015,3014_4E8C_3015,3014_5B89_3015,3014_70B9_3015
   1F245=3014_6253_3015,3014_76D7_3015,3014_52DD_3015,3014_6557_3015 1F249x 1F250=5F97,53EF
   1F252x 1F260v 1F266x 1F300v 1F6D9x 1F6DCv 1F6EDx 1F6F0v 1F6FDx 1F700v 1F7DAx 1F7E0v 1F7ECx
   1F7F0v 1F7F1x 1F800v 1F80Cx 1F810v 1F848x 1F850v 1F85Ax 1F860v 1F888x 1F890v 1F8AEx 1F8B0v
   1F8BCx 1F8C0v 1F8C2x 1F8D0v 1F8D9x 1F900v 1FA58x 1FA60v 1FA6Ex 1FA70v 1FA7Dx 1FA80v 1FA8Bx
   1FA8Ev 1FAC7x 1FAC8v 1FAC9x 1FACDv 1FADDx 1FADFv 1FAEBx 1FAEFv 1FAF9x 1FB00v 1FB93x 1FB94v
   1FBF0-1FBC0 1FBFAv 1FBFBx 20000v 2A6E0x 2A700v 2B81Ex 2B820v 2CEAEx 2CEB0v 2EBE1x 2EBF0v
   2EE5Ex 2F800=4E3D,4E38,4E41,20122,4F60,4FAE,4FBB,5002,507A,5099,50E7,50CF,349E,2063A,514D
   2F80F=5154,5164,5177,2051C,34B9,5167,518D,2054B,5197,51A4,4ECC,51AC,51B5,291DF,51F5
   2F81E=5203,34DF,523B,5246,5272,5277,3515,52C7,52C9,52E4,52FA,5305,5306,5317,5349
   2F82D=5351,535A,5373,537D,537F,537F,537F,20A2C,7070,53CA,53DF,20B63,53EB,53F1,5406
   2F83C=549E,5438,5448,5468,54A2,54F6,5510,5553,5563,5584,5584,5599,55AB,55B3,55C2
   2F84B=5716,5606,5717,5651,5674,5207,58EE,57CE,57F4,580D,578B,5832,5831,58AC,214E4
   2F85A=58F2,58F7,5906,591A,5922,5962,216A8,216EA,59EC,5A1B,5A27,59D8,5A66,36EE,36FC
   2F869=5B08,5B3E,5B3E,219C8,5BC3,5BD8,5BE7,5BF3,21B18,5BFF,5C06,5F53,5C22,3781,5C60
   2F878=5C6E,5CC0,5C8D,21DE4,5D43,21DE6,5D6E,5D6B,5D7C,5DE1,5DE2,382F,5DFD,5E28,5E3D
   2F887=5E69,3862,22183,387C,5EB0,5EB3,5EB6,5ECA,2A392,5EFE,22331,22331,8201,5F22,5F22
   2F896=38C7,232B8,261DA,5F62,5F6B,38E3,5F9A,5FCD,5FD7,5FF9,6081,393A,391C,6094,226D4
   2F8A5=60C7,6148,614C,614E,614C,617A,618E,61B2,61A4,61AF,61DE,61F2,61F6,6210,621B
   2F8B4=625D,62B1,62D4,6350,22B0C,633D,62FC,6368,6383,63E4,22BF1,6422,63C5,63A9,3A2E
   2F8C3=6469,647E,649D,6477,3A6C,654F,656C,2300A,65E3,66F8,6649,3B19,6691,3B08,3AE4
   2F8D2=5192,5195,6700,669C,80AD,43D9,6717,671B,6721,675E,6753,233C3,3B49,67FA,6785
   2F8E1=6852,6885,2346D,688E,681F,6914,3B9D,6942,69A3,69EA,6AA8,236A3,6ADB,3C18,6B21
   2F8F0=238A7,6B54,3C4E,6B72,6B9F,6BBA,6BBB,23A8D,21D0B,23AFA,6C4E,23CBC,6CBF,6CCD
   2F8FE=6C67,6D16,6D3E,6D77,6D41,6D69,6D78,6D85,23D1E,6D34,6E2F,6E6E,3D33,6ECB,6EC7
   2F90D=23ED1,6DF9,6F6E,23F5E,23F8E,6FC6,7039,701E,701B,3D96,704A,707D,7077,70AD,20525
   2F91C=7145,24263,719C,243AB,7228,7235,7250,24608,7280,7295,24735,24814,737A,738B
   2F92A=3EAC,73A5,3EB8,3EB8,7447,745C,7471,7485,74CA,3F1B,7524,24C36,753E,24C92,7570
   2F939=2219F,7610,24FA1,24FB8,25044,3FFC,4008,76F4,250F3,250F2,25119,25133,771E,771F
   2F947=771F,774A,4039,778B,4046,4096,2541D,784E,788C,78CC,40E3,25626,7956,2569A,256C5
   2F956=798F,79EB,412F,7A40,7A4A,7A4F,2597C,25AA7,25AA7,7AEE,4202,25BAB,7BC6,7BC9,4227
   2F965=25C80,7CD2,42A0,7CE8,7CE3,7D00,25F86,7D63,4301,7DC7,7E02,7E45,4334,26228,26247
   2F974=4359,262D9,7F7A,2633E,7F95,7FFA,8005,264DA,26523,8060,265A8,8070,2335F,43D5
   2F982=80B2,8103,440B,813E,5AB5,267A7,267B5,23393,2339C,8201,8204,8F9E,446B,8291,828B
   2F991=829D,52B3,82B1,82B3,82BD,82E6,26B3C,82E5,831D,8363,83AD,8323,83BD,83E7,8457
   2F9A0=8353,83CA,83CC,83DC,26C36,26D6B,26CD5,452B,84F1,84F3,8516,273CA,8564,26F2C
   2F9AE=455D,4561,26FB1,270D2,456B,8650,865C,8667,8669,86A9,8688,870E,86E2,8779,8728
   2F9BD=876B,8786,45D7,87E1,8801,45F9,8860,8863,27667,88D7,88DE,4635,88FA,34BB,278AE
   2F9CC=27966,46BE,46C7,8AA0,8AED,8B8A,8C55,27CA8,8CAB,8CC1,8D1B,8D77,27F2F,20804,8DCB
   2F9DB=8DBC,8DF0,208DE,8ED4,8F38,285D2,285ED,9094,90F1,9111,2872E,911B,9238,92D7,92D8
   2F9EA=927C,93F9,9415,28BFA,958B,4995,95B7,28D77,49E6,96C3,5DB2,9723,29145,2921A,4A6E
   2F9F9=4A76,97E0,2940A,4AB2,29496,980B,980B,9829,295B6,98E2,4B33,9929,99A7,99C2,99FE
   2FA08=4BCE,29B30,9B12,9C40,9CFD,4CCE,4CED,9D67,2A0CE,4CF8,2A105,2A20E,2A291,9EBB
   2FA16=4D56,9EF9,9EFE,9F05,9F0F,9F16,9F3B,2A600 2FA1Ex 30000v 3134Bx 31350v 3347Ax E0100i
   E01F0x"

/-- What the character at a place of a run stands for; nothing if no name has it. -/
def standsFor? (rule : NameRule) (place : Nat) (c : Char) : Option (List Char) :=
  match rule with
  | .keep => some [c]
  | .drop => some []
  | .refuse => none
  | .pairs => some [if place % 2 = 0 then Char.ofNat (c.toNat + 1) else c]
  | .up distance => some [Char.ofNat (c.toNat + distance)]
  | .down distance => some [Char.ofNat (c.toNat - distance)]
  | .list characters => characters[place]?

end NameRule

/-- What a character stands for in a name. -/
def nameForm? (c : Char) : Option (List Char) :=
  if c.toNat < 0x80 then some [Text.lowerAscii c]
  else match NameRule.table.run? c.toNat with
    | some (start, rule) => rule.standsFor? (c.toNat - start) c
    | none => none

end QueryDispatch
