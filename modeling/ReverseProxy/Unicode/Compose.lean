import ReverseProxy.Unicode.Runs

/-! # Composed characters -/

namespace ReverseProxy.Unicode

/-- The two characters that a composed one stands for. Syllables of Hangul are computed. -/
def pairRuns : Runs := [
  (0x00C0, "=41,300 =41,301 =41,302 =41,303 =41,308 =41,30A"),
  (0x00C7, "=43,327 =45,300 =45,301 =45,302 =45,308 =49,300 =49,301 =49,302 =49,308"),
  (0x00D1, "=4E,303 =4F,300 =4F,301 =4F,302 =4F,303 =4F,308"),
  (0x00D9, "=55,300 =55,301 =55,302 =55,308 =59,301"),
  (0x00E0, "=61,300 =61,301 =61,302 =61,303 =61,308 =61,30A"),
  (0x00E7, "=63,327 =65,300 =65,301 =65,302 =65,308 =69,300 =69,301 =69,302 =69,308"),
  (0x00F1, "=6E,303 =6F,300 =6F,301 =6F,302 =6F,303 =6F,308"),
  (0x00F9, "=75,300 =75,301 =75,302 =75,308 =79,301"),
  (0x00FF, "=79,308 =41,304 =61,304 =41,306 =61,306 =41,328 =61,328 =43,301 =63,301 =43,302"),
  (0x0109, "=63,302 =43,307 =63,307 =43,30C =63,30C =44,30C =64,30C"),
  (0x0112, "=45,304 =65,304 =45,306 =65,306 =45,307 =65,307 =45,328 =65,328 =45,30C =65,30C"),
  (0x011C, "=47,302 =67,302 =47,306 =67,306 =47,307 =67,307 =47,327 =67,327 =48,302 =68,302"),
  (0x0128, "=49,303 =69,303 =49,304 =69,304 =49,306 =69,306 =49,328 =69,328 =49,307"),
  (0x0134, "=4A,302 =6A,302 =4B,327 =6B,327"),
  (0x0139, "=4C,301 =6C,301 =4C,327 =6C,327 =4C,30C =6C,30C"),
  (0x0143, "=4E,301 =6E,301 =4E,327 =6E,327 =4E,30C =6E,30C"),
  (0x014C, "=4F,304 =6F,304 =4F,306 =6F,306 =4F,30B =6F,30B"),
  (0x0154, "=52,301 =72,301 =52,327 =72,327 =52,30C =72,30C =53,301 =73,301 =53,302 =73,302"),
  (0x015E, "=53,327 =73,327 =53,30C =73,30C =54,327 =74,327 =54,30C =74,30C"),
  (0x0168, "=55,303 =75,303 =55,304 =75,304 =55,306 =75,306 =55,30A =75,30A =55,30B =75,30B"),
  (0x0172, "=55,328 =75,328 =57,302 =77,302 =59,302 =79,302 =59,308 =5A,301 =7A,301 =5A,307"),
  (0x017C, "=7A,307 =5A,30C =7A,30C"),
  (0x01A0, "=4F,31B =6F,31B"),
  (0x01AF, "=55,31B =75,31B"),
  (0x01CD, "=41,30C =61,30C =49,30C =69,30C =4F,30C =6F,30C =55,30C =75,30C =DC,304 =FC,304"),
  (0x01D7, "=DC,301 =FC,301 =DC,30C =FC,30C =DC,300 =FC,300"),
  (0x01DE, "=C4,304 =E4,304 =226,304 =227,304 =C6,304 =E6,304"),
  (0x01E6, "=47,30C =67,30C =4B,30C =6B,30C =4F,328 =6F,328 =1EA,304 =1EB,304 =1B7,30C =292,30C"),
  (0x01F0, "=6A,30C"),
  (0x01F4, "=47,301 =67,301"),
  (0x01F8, "=4E,300 =6E,300 =C5,301 =E5,301 =C6,301 =E6,301 =D8,301 =F8,301 =41,30F =61,30F"),
  (0x0202, "=41,311 =61,311 =45,30F =65,30F =45,311 =65,311 =49,30F =69,30F =49,311 =69,311"),
  (0x020C, "=4F,30F =6F,30F =4F,311 =6F,311 =52,30F =72,30F =52,311 =72,311 =55,30F =75,30F"),
  (0x0216, "=55,311 =75,311 =53,326 =73,326 =54,326 =74,326"),
  (0x021E, "=48,30C =68,30C"),
  (0x0226, "=41,307 =61,307 =45,327 =65,327 =D6,304 =F6,304 =D5,304 =F5,304 =4F,307 =6F,307"),
  (0x0230, "=22E,304 =22F,304 =59,304 =79,304"),
  (0x0385, "=A8,301 =391,301"),
  (0x0388, "=395,301 =397,301 =399,301"),
  (0x038C, "=39F,301"),
  (0x038E, "=3A5,301 =3A9,301 =3CA,301"),
  (0x03AA, "=399,308 =3A5,308 =3B1,301 =3B5,301 =3B7,301 =3B9,301 =3CB,301"),
  (0x03CA, "=3B9,308 =3C5,308 =3BF,301 =3C5,301 =3C9,301"),
  (0x03D3, "=3D2,301 =3D2,308"),
  (0x0400, "=415,300 =415,308"),
  (0x0403, "=413,301"),
  (0x0407, "=406,308"),
  (0x040C, "=41A,301 =418,300 =423,306"),
  (0x0419, "=418,306"),
  (0x0439, "=438,306"),
  (0x0450, "=435,300 =435,308"),
  (0x0453, "=433,301"),
  (0x0457, "=456,308"),
  (0x045C, "=43A,301 =438,300 =443,306"),
  (0x0476, "=474,30F =475,30F"),
  (0x04C1, "=416,306 =436,306"),
  (0x04D0, "=410,306 =430,306 =410,308 =430,308"),
  (0x04D6, "=415,306 =435,306"),
  (0x04DA, "=4D8,308 =4D9,308 =416,308 =436,308 =417,308 =437,308"),
  (0x04E2, "=418,304 =438,304 =418,308 =438,308 =41E,308 =43E,308"),
  (0x04EA, "=4E8,308 =4E9,308 =42D,308 =44D,308 =423,304 =443,304 =423,308 =443,308 =423,30B"),
  (0x04F3, "=443,30B =427,308 =447,308"),
  (0x04F8, "=42B,308 =44B,308"),
  (0x0622, "=627,653 =627,654 =648,654 =627,655 =64A,654"),
  (0x06C0, "=6D5,654"),
  (0x06C2, "=6C1,654"),
  (0x06D3, "=6D2,654"),
  (0x0929, "=928,93C"),
  (0x0931, "=930,93C"),
  (0x0934, "=933,93C"),
  (0x09CB, "=9C7,9BE =9C7,9D7"),
  (0x0B48, "=B47,B56"),
  (0x0B4B, "=B47,B3E =B47,B57"),
  (0x0B94, "=B92,BD7"),
  (0x0BCA, "=BC6,BBE =BC7,BBE =BC6,BD7"),
  (0x0C48, "=C46,C56"),
  (0x0CC0, "=CBF,CD5"),
  (0x0CC7, "=CC6,CD5 =CC6,CD6"),
  (0x0CCA, "=CC6,CC2 =CCA,CD5"),
  (0x0D4A, "=D46,D3E =D47,D3E =D46,D57"),
  (0x0DDA, "=DD9,DCA"),
  (0x0DDC, "=DD9,DCF =DDC,DCA =DD9,DDF"),
  (0x1026, "=1025,102E"),
  (0x1B06, "=1B05,1B35"),
  (0x1B08, "=1B07,1B35"),
  (0x1B0A, "=1B09,1B35"),
  (0x1B0C, "=1B0B,1B35"),
  (0x1B0E, "=1B0D,1B35"),
  (0x1B12, "=1B11,1B35"),
  (0x1B3B, "=1B3A,1B35"),
  (0x1B3D, "=1B3C,1B35"),
  (0x1B40, "=1B3E,1B35 =1B3F,1B35"),
  (0x1B43, "=1B42,1B35"),
  (0x1E00, "=41,325 =61,325 =42,307 =62,307 =42,323 =62,323 =42,331 =62,331 =C7,301 =E7,301"),
  (0x1E0A, "=44,307 =64,307 =44,323 =64,323 =44,331 =64,331 =44,327 =64,327 =44,32D =64,32D"),
  (0x1E14, "=112,300 =113,300 =112,301 =113,301 =45,32D =65,32D =45,330 =65,330 =228,306"),
  (0x1E1D, "=229,306 =46,307 =66,307 =47,304 =67,304 =48,307 =68,307 =48,323 =68,323 =48,308"),
  (0x1E27, "=68,308 =48,327 =68,327 =48,32E =68,32E =49,330 =69,330 =CF,301 =EF,301 =4B,301"),
  (0x1E31, "=6B,301 =4B,323 =6B,323 =4B,331 =6B,331 =4C,323 =6C,323 =1E36,304 =1E37,304 =4C,331"),
  (0x1E3B, "=6C,331 =4C,32D =6C,32D =4D,301 =6D,301 =4D,307 =6D,307 =4D,323 =6D,323 =4E,307"),
  (0x1E45, "=6E,307 =4E,323 =6E,323 =4E,331 =6E,331 =4E,32D =6E,32D =D5,301 =F5,301 =D5,308"),
  (0x1E4F, "=F5,308 =14C,300 =14D,300 =14C,301 =14D,301 =50,301 =70,301 =50,307 =70,307 =52,307"),
  (0x1E59, "=72,307 =52,323 =72,323 =1E5A,304 =1E5B,304 =52,331 =72,331 =53,307 =73,307 =53,323"),
  (0x1E63, "=73,323 =15A,307 =15B,307 =160,307 =161,307 =1E62,307 =1E63,307 =54,307 =74,307"),
  (0x1E6C, "=54,323 =74,323 =54,331 =74,331 =54,32D =74,32D =55,324 =75,324 =55,330 =75,330"),
  (0x1E76, "=55,32D =75,32D =168,301 =169,301 =16A,308 =16B,308 =56,303 =76,303 =56,323 =76,323"),
  (0x1E80, "=57,300 =77,300 =57,301 =77,301 =57,308 =77,308 =57,307 =77,307 =57,323 =77,323"),
  (0x1E8A, "=58,307 =78,307 =58,308 =78,308 =59,307 =79,307 =5A,302 =7A,302 =5A,323 =7A,323"),
  (0x1E94, "=5A,331 =7A,331 =68,331 =74,308 =77,30A =79,30A"),
  (0x1E9B, "=17F,307"),
  (0x1EA0, "=41,323 =61,323 =41,309 =61,309 =C2,301 =E2,301 =C2,300 =E2,300 =C2,309 =E2,309"),
  (0x1EAA, "=C2,303 =E2,303 =1EA0,302 =1EA1,302 =102,301 =103,301 =102,300 =103,300 =102,309"),
  (0x1EB3, "=103,309 =102,303 =103,303 =1EA0,306 =1EA1,306 =45,323 =65,323 =45,309 =65,309"),
  (0x1EBC, "=45,303 =65,303 =CA,301 =EA,301 =CA,300 =EA,300 =CA,309 =EA,309 =CA,303 =EA,303"),
  (0x1EC6, "=1EB8,302 =1EB9,302 =49,309 =69,309 =49,323 =69,323 =4F,323 =6F,323 =4F,309 =6F,309"),
  (0x1ED0, "=D4,301 =F4,301 =D4,300 =F4,300 =D4,309 =F4,309 =D4,303 =F4,303 =1ECC,302 =1ECD,302"),
  (0x1EDA, "=1A0,301 =1A1,301 =1A0,300 =1A1,300 =1A0,309 =1A1,309 =1A0,303 =1A1,303 =1A0,323"),
  (0x1EE3, "=1A1,323 =55,323 =75,323 =55,309 =75,309 =1AF,301 =1B0,301 =1AF,300 =1B0,300"),
  (0x1EEC, "=1AF,309 =1B0,309 =1AF,303 =1B0,303 =1AF,323 =1B0,323 =59,300 =79,300 =59,323"),
  (0x1EF5, "=79,323 =59,309 =79,309 =59,303 =79,303"),
  (0x1F00, "=3B1,313 =3B1,314 =1F00,300 =1F01,300 =1F00,301 =1F01,301 =1F00,342 =1F01,342"),
  (0x1F08, "=391,313 =391,314 =1F08,300 =1F09,300 =1F08,301 =1F09,301 =1F08,342 =1F09,342"),
  (0x1F10, "=3B5,313 =3B5,314 =1F10,300 =1F11,300 =1F10,301 =1F11,301"),
  (0x1F18, "=395,313 =395,314 =1F18,300 =1F19,300 =1F18,301 =1F19,301"),
  (0x1F20, "=3B7,313 =3B7,314 =1F20,300 =1F21,300 =1F20,301 =1F21,301 =1F20,342 =1F21,342"),
  (0x1F28, "=397,313 =397,314 =1F28,300 =1F29,300 =1F28,301 =1F29,301 =1F28,342 =1F29,342"),
  (0x1F30, "=3B9,313 =3B9,314 =1F30,300 =1F31,300 =1F30,301 =1F31,301 =1F30,342 =1F31,342"),
  (0x1F38, "=399,313 =399,314 =1F38,300 =1F39,300 =1F38,301 =1F39,301 =1F38,342 =1F39,342"),
  (0x1F40, "=3BF,313 =3BF,314 =1F40,300 =1F41,300 =1F40,301 =1F41,301"),
  (0x1F48, "=39F,313 =39F,314 =1F48,300 =1F49,300 =1F48,301 =1F49,301"),
  (0x1F50, "=3C5,313 =3C5,314 =1F50,300 =1F51,300 =1F50,301 =1F51,301 =1F50,342 =1F51,342"),
  (0x1F59, "=3A5,314"),
  (0x1F5B, "=1F59,300"),
  (0x1F5D, "=1F59,301"),
  (0x1F5F, "=1F59,342 =3C9,313 =3C9,314 =1F60,300 =1F61,300 =1F60,301 =1F61,301 =1F60,342"),
  (0x1F67, "=1F61,342 =3A9,313 =3A9,314 =1F68,300 =1F69,300 =1F68,301 =1F69,301 =1F68,342"),
  (0x1F6F, "=1F69,342 =3B1,300"),
  (0x1F72, "=3B5,300"),
  (0x1F74, "=3B7,300"),
  (0x1F76, "=3B9,300"),
  (0x1F78, "=3BF,300"),
  (0x1F7A, "=3C5,300"),
  (0x1F7C, "=3C9,300"),
  (0x1F80, "=1F00,345 =1F01,345 =1F02,345 =1F03,345 =1F04,345 =1F05,345 =1F06,345 =1F07,345"),
  (0x1F88, "=1F08,345 =1F09,345 =1F0A,345 =1F0B,345 =1F0C,345 =1F0D,345 =1F0E,345 =1F0F,345"),
  (0x1F90, "=1F20,345 =1F21,345 =1F22,345 =1F23,345 =1F24,345 =1F25,345 =1F26,345 =1F27,345"),
  (0x1F98, "=1F28,345 =1F29,345 =1F2A,345 =1F2B,345 =1F2C,345 =1F2D,345 =1F2E,345 =1F2F,345"),
  (0x1FA0, "=1F60,345 =1F61,345 =1F62,345 =1F63,345 =1F64,345 =1F65,345 =1F66,345 =1F67,345"),
  (0x1FA8, "=1F68,345 =1F69,345 =1F6A,345 =1F6B,345 =1F6C,345 =1F6D,345 =1F6E,345 =1F6F,345"),
  (0x1FB0, "=3B1,306 =3B1,304 =1F70,345 =3B1,345 =3AC,345"),
  (0x1FB6, "=3B1,342 =1FB6,345 =391,306 =391,304 =391,300"),
  (0x1FBC, "=391,345"),
  (0x1FC1, "=A8,342 =1F74,345 =3B7,345 =3AE,345"),
  (0x1FC6, "=3B7,342 =1FC6,345 =395,300"),
  (0x1FCA, "=397,300"),
  (0x1FCC, "=397,345 =1FBF,300 =1FBF,301 =1FBF,342 =3B9,306 =3B9,304 =3CA,300"),
  (0x1FD6, "=3B9,342 =3CA,342 =399,306 =399,304 =399,300"),
  (0x1FDD, "=1FFE,300 =1FFE,301 =1FFE,342 =3C5,306 =3C5,304 =3CB,300"),
  (0x1FE4, "=3C1,313 =3C1,314 =3C5,342 =3CB,342 =3A5,306 =3A5,304 =3A5,300"),
  (0x1FEC, "=3A1,314 =A8,300"),
  (0x1FF2, "=1F7C,345 =3C9,345 =3CE,345"),
  (0x1FF6, "=3C9,342 =1FF6,345 =39F,300"),
  (0x1FFA, "=3A9,300"),
  (0x1FFC, "=3A9,345"),
  (0x219A, "=2190,338 =2192,338"),
  (0x21AE, "=2194,338"),
  (0x21CD, "=21D0,338 =21D4,338 =21D2,338"),
  (0x2204, "=2203,338"),
  (0x2209, "=2208,338"),
  (0x220C, "=220B,338"),
  (0x2224, "=2223,338"),
  (0x2226, "=2225,338"),
  (0x2241, "=223C,338"),
  (0x2244, "=2243,338"),
  (0x2247, "=2245,338"),
  (0x2249, "=2248,338"),
  (0x2260, "=3D,338"),
  (0x2262, "=2261,338"),
  (0x226D, "=224D,338 =3C,338 =3E,338 =2264,338 =2265,338"),
  (0x2274, "=2272,338 =2273,338"),
  (0x2278, "=2276,338 =2277,338"),
  (0x2280, "=227A,338 =227B,338"),
  (0x2284, "=2282,338 =2283,338"),
  (0x2288, "=2286,338 =2287,338"),
  (0x22AC, "=22A2,338 =22A8,338 =22A9,338 =22AB,338"),
  (0x22E0, "=227C,338 =227D,338 =2291,338 =2292,338"),
  (0x22EA, "=22B2,338 =22B3,338 =22B4,338 =22B5,338"),
  (0x304C, "=304B,3099"),
  (0x304E, "=304D,3099"),
  (0x3050, "=304F,3099"),
  (0x3052, "=3051,3099"),
  (0x3054, "=3053,3099"),
  (0x3056, "=3055,3099"),
  (0x3058, "=3057,3099"),
  (0x305A, "=3059,3099"),
  (0x305C, "=305B,3099"),
  (0x305E, "=305D,3099"),
  (0x3060, "=305F,3099"),
  (0x3062, "=3061,3099"),
  (0x3065, "=3064,3099"),
  (0x3067, "=3066,3099"),
  (0x3069, "=3068,3099"),
  (0x3070, "=306F,3099 =306F,309A"),
  (0x3073, "=3072,3099 =3072,309A"),
  (0x3076, "=3075,3099 =3075,309A"),
  (0x3079, "=3078,3099 =3078,309A"),
  (0x307C, "=307B,3099 =307B,309A"),
  (0x3094, "=3046,3099"),
  (0x309E, "=309D,3099"),
  (0x30AC, "=30AB,3099"),
  (0x30AE, "=30AD,3099"),
  (0x30B0, "=30AF,3099"),
  (0x30B2, "=30B1,3099"),
  (0x30B4, "=30B3,3099"),
  (0x30B6, "=30B5,3099"),
  (0x30B8, "=30B7,3099"),
  (0x30BA, "=30B9,3099"),
  (0x30BC, "=30BB,3099"),
  (0x30BE, "=30BD,3099"),
  (0x30C0, "=30BF,3099"),
  (0x30C2, "=30C1,3099"),
  (0x30C5, "=30C4,3099"),
  (0x30C7, "=30C6,3099"),
  (0x30C9, "=30C8,3099"),
  (0x30D0, "=30CF,3099 =30CF,309A"),
  (0x30D3, "=30D2,3099 =30D2,309A"),
  (0x30D6, "=30D5,3099 =30D5,309A"),
  (0x30D9, "=30D8,3099 =30D8,309A"),
  (0x30DC, "=30DB,3099 =30DB,309A"),
  (0x30F4, "=30A6,3099"),
  (0x30F7, "=30EF,3099 =30F0,3099 =30F1,3099 =30F2,3099"),
  (0x30FE, "=30FD,3099"),
  (0x105C9, "=105D2,307"),
  (0x105E4, "=105DA,307"),
  (0x1109A, "=11099,110BA"),
  (0x1109C, "=1109B,110BA"),
  (0x110AB, "=110A5,110BA"),
  (0x1112E, "=11131,11127 =11132,11127"),
  (0x1134B, "=11347,1133E =11347,11357"),
  (0x11383, "=11382,113C9"),
  (0x11385, "=11384,113BB"),
  (0x1138E, "=1138B,113C2"),
  (0x11391, "=11390,113C9"),
  (0x113C5, "=113C2,113C2"),
  (0x113C7, "=113C2,113B8 =113C2,113C9"),
  (0x114BB, "=114B9,114BA =114B9,114B0"),
  (0x114BE, "=114B9,114BD"),
  (0x115BA, "=115B8,115AF =115B9,115AF"),
  (0x11938, "=11935,11930"),
  (0x16121, "=1611E,1611E =1611E,16129 =1611E,1611F =16129,1611F =1611E,16120 =16121,1611F"),
  (0x16127, "=16122,1611F =16121,16120"),
  (0x16D68, "=16D67,16D67 =16D63,16D67 =16D69,16D67")]

/-- The combining class of each character that has one. Marks are sorted by it. -/
def classRuns : Runs := [
  (0x0300, "15=E6 =E8 4=DC =E8 =D8 5=DC 2=CA 4=DC 2=CA B=DC 5=1 4=DC 3=E6"),
  (0x0342, "=E6"),
  (0x0345, "=F0 =E6 3=DC 3=E6 2=DC"),
  (0x0350, "3=E6 4=DC =E6 =E8 2=DC =E6 =E9 2=EA =E9 2=EA =E9 D=E6"),
  (0x0483, "5=E6"),
  (0x0591, "=DC 4=E6 =DC 3=E6 =DE =DC 6=E6 6=DC 2=E6 =DC 2=E6 =DE =E4 =E6 =A =B =C =D =E =F =10"),
  (0x05B7, "=11 =12 2=13 =14 =15 =16"),
  (0x05BF, "=17"),
  (0x05C1, "=18 =19"),
  (0x05C4, "=E6 =DC"),
  (0x05C7, "=12"),
  (0x0610, "8=E6 =1E =1F =20"),
  (0x064B, "=1B =1C =1D =1E =1F =20 =21 =22 2=E6 2=DC 5=E6 =DC 2=E6 =DC"),
  (0x0670, "=23"),
  (0x06D6, "7=E6"),
  (0x06DF, "4=E6 =DC =E6"),
  (0x06E7, "2=E6"),
  (0x06EA, "=DC 2=E6 =DC"),
  (0x0711, "=24"),
  (0x0730, "=E6 =DC 2=E6 =DC 2=E6 3=DC =E6 2=DC =E6 =DC 3=E6 =DC =E6 =DC =E6 =DC =E6 =DC 2=E6"),
  (0x07EB, "7=E6 =DC =E6"),
  (0x07FD, "=DC"),
  (0x0816, "4=E6"),
  (0x081B, "9=E6"),
  (0x0825, "3=E6"),
  (0x0829, "5=E6"),
  (0x0859, "3=DC"),
  (0x0897, "2=E6 3=DC 4=E6"),
  (0x08CA, "5=E6 5=DC E=E6"),
  (0x08E3, "=DC 2=E6 =DC 2=E6 =DC 3=E6 3=DC =1B =1C =1D 3=E6 =DC 2=E6 2=DC 5=E6"),
  (0x093C, "=7"),
  (0x094D, "=9"),
  (0x0951, "=E6 =DC 2=E6"),
  (0x09BC, "=7"),
  (0x09CD, "=9"),
  (0x09FE, "=E6"),
  (0x0A3C, "=7"),
  (0x0A4D, "=9"),
  (0x0ABC, "=7"),
  (0x0ACD, "=9"),
  (0x0B3C, "=7"),
  (0x0B4D, "=9"),
  (0x0BCD, "=9"),
  (0x0C3C, "=7"),
  (0x0C4D, "=9"),
  (0x0C55, "=54 =5B"),
  (0x0CBC, "=7"),
  (0x0CCD, "=9"),
  (0x0D3B, "2=9"),
  (0x0D4D, "=9"),
  (0x0DCA, "=9"),
  (0x0E38, "2=67 =9"),
  (0x0E48, "4=6B"),
  (0x0EB8, "2=76 =9"),
  (0x0EC8, "4=7A"),
  (0x0F18, "2=DC"),
  (0x0F35, "=DC"),
  (0x0F37, "=DC"),
  (0x0F39, "=D8"),
  (0x0F71, "=81 =82"),
  (0x0F74, "=84"),
  (0x0F7A, "4=82"),
  (0x0F80, "=82"),
  (0x0F82, "2=E6 =9"),
  (0x0F86, "2=E6"),
  (0x0FC6, "=DC"),
  (0x1037, "=7"),
  (0x1039, "2=9"),
  (0x108D, "=DC"),
  (0x135D, "3=E6"),
  (0x1714, "2=9"),
  (0x1734, "=9"),
  (0x17D2, "=9"),
  (0x17DD, "=E6"),
  (0x18A9, "=E4"),
  (0x1939, "=DE =E6 =DC"),
  (0x1A17, "=E6 =DC"),
  (0x1A60, "=9"),
  (0x1A75, "8=E6"),
  (0x1A7F, "=DC"),
  (0x1AB0, "5=E6 6=DC 2=E6 =DC"),
  (0x1ABF, "2=DC 2=E6 2=DC 5=E6 =DC 12=E6 =DC"),
  (0x1AE0, "6=E6 =DC 4=E6 =EA"),
  (0x1B34, "=7"),
  (0x1B44, "=9"),
  (0x1B6B, "=E6 =DC 7=E6"),
  (0x1BAA, "2=9"),
  (0x1BE6, "=7"),
  (0x1BF2, "2=9"),
  (0x1C37, "=7"),
  (0x1CD0, "3=E6"),
  (0x1CD4, "=1 5=DC 2=E6 4=DC =E6"),
  (0x1CE2, "7=1"),
  (0x1CED, "=DC"),
  (0x1CF4, "=E6"),
  (0x1CF8, "2=E6"),
  (0x1DC0, "2=E6 =DC 7=E6 =DC 2=E6 =EA =D6 =DC =CA 25=E6 =E8 2=E4 =DC =DA =E6 =E9 =DC =E6 =DC"),
  (0x20D0, "2=E6 2=1 4=E6 3=1 2=E6"),
  (0x20E1, "=E6"),
  (0x20E5, "2=1 =E6 =DC =E6 2=1 4=DC =E6"),
  (0x2CEF, "3=E6"),
  (0x2D7F, "=9"),
  (0x2DE0, "20=E6"),
  (0x302A, "=DA =E4 =E8 =DE 2=E0"),
  (0x3099, "2=8"),
  (0xA66F, "=E6"),
  (0xA674, "A=E6"),
  (0xA69E, "2=E6"),
  (0xA6F0, "2=E6"),
  (0xA806, "=9"),
  (0xA82C, "=9"),
  (0xA8C4, "=9"),
  (0xA8E0, "12=E6"),
  (0xA92B, "3=DC"),
  (0xA953, "=9"),
  (0xA9B3, "=7"),
  (0xA9C0, "=9"),
  (0xAAB0, "=E6"),
  (0xAAB2, "2=E6 =DC"),
  (0xAAB7, "2=E6"),
  (0xAABE, "2=E6"),
  (0xAAC1, "=E6"),
  (0xAAF6, "=9"),
  (0xABED, "=9"),
  (0xFB1E, "=1A"),
  (0xFE20, "7=E6 7=DC 2=E6"),
  (0x101FD, "=DC"),
  (0x102E0, "=DC"),
  (0x10376, "5=E6"),
  (0x10A0D, "=DC"),
  (0x10A0F, "=E6"),
  (0x10A38, "=E6 =1 =DC"),
  (0x10A3F, "=9"),
  (0x10AE5, "=E6 =DC"),
  (0x10D24, "4=E6"),
  (0x10D69, "5=E6"),
  (0x10EAB, "2=E6"),
  (0x10EFA, "2=DC"),
  (0x10EFD, "3=DC"),
  (0x10F46, "2=DC 3=E6 =DC =E6 4=DC"),
  (0x10F82, "=E6 =DC =E6 =DC"),
  (0x11046, "=9"),
  (0x11070, "=9"),
  (0x1107F, "=9"),
  (0x110B9, "=9 =7"),
  (0x11100, "3=E6"),
  (0x11133, "2=9"),
  (0x11173, "=7"),
  (0x111C0, "=9"),
  (0x111CA, "=7"),
  (0x11235, "=9 =7"),
  (0x112E9, "=7 =9"),
  (0x1133B, "2=7"),
  (0x1134D, "=9"),
  (0x11366, "7=E6"),
  (0x11370, "5=E6"),
  (0x113CE, "3=9"),
  (0x11442, "=9"),
  (0x11446, "=7"),
  (0x1145E, "=E6"),
  (0x114C2, "=9 =7"),
  (0x115BF, "=9 =7"),
  (0x1163F, "=9"),
  (0x116B6, "=9 =7"),
  (0x1172B, "=9"),
  (0x11839, "=9 =7"),
  (0x1193D, "2=9"),
  (0x11943, "=7"),
  (0x119E0, "=9"),
  (0x11A34, "=9"),
  (0x11A47, "=9"),
  (0x11A99, "=9"),
  (0x11C3F, "=9"),
  (0x11D42, "=7"),
  (0x11D44, "2=9"),
  (0x11D97, "=9"),
  (0x11F41, "2=9"),
  (0x1612F, "=9"),
  (0x16AF0, "5=1"),
  (0x16B30, "7=E6"),
  (0x16FF0, "2=6"),
  (0x1BC9E, "=1"),
  (0x1D165, "2=D8 3=1"),
  (0x1D16D, "=E2 5=D8"),
  (0x1D17B, "8=DC"),
  (0x1D185, "5=E6 2=DC"),
  (0x1D1AA, "4=E6"),
  (0x1D242, "3=E6"),
  (0x1E000, "7=E6"),
  (0x1E008, "11=E6"),
  (0x1E01B, "7=E6"),
  (0x1E023, "2=E6"),
  (0x1E026, "5=E6"),
  (0x1E08F, "=E6"),
  (0x1E130, "7=E6"),
  (0x1E2AE, "=E6"),
  (0x1E2EC, "4=E6"),
  (0x1E4EC, "2=E8 =DC =E6"),
  (0x1E5EE, "=E6 =DC"),
  (0x1E6E3, "=E6"),
  (0x1E6E6, "=E6"),
  (0x1E6EE, "2=E6"),
  (0x1E6F5, "=E6"),
  (0x1E8D0, "7=DC"),
  (0x1E944, "6=E6 =7")]

/-! ## Apart -/

/-- The pair that a character stands for, if it is a composed one. -/
def pair? (n : Nat) : Option (Nat × Nat) :=
  match Runs.find? pairRuns n with
  | some (_, '=' :: numbers) =>
    match Runs.numbers numbers with
    | [a, b] => some (a, b)
    | _ => none
  | _ => none

def combiningClass (n : Nat) : Nat :=
  match Runs.find? classRuns n with
  | some (_, '=' :: number) => (Runs.numbers number).headD 0
  | _ => 0

/-! Syllables of Hangul stand in one row: by first consonant, vowel and last consonant. -/

def isSyllable (n : Nat) : Bool := 0xAC00 ≤ n && n < 0xAC00 + 19 * 21 * 28

def takeSyllable (n : Nat) : List Nat :=
  let k := n - 0xAC00
  let open' := [0x1100 + k / (21 * 28), 0x1161 + k % (21 * 28) / 28]
  if k % 28 = 0 then open' else open' ++ [0x11A7 + k % 28]

/-- A character and the marks that are composed into it. -/
def takeApart (n : Nat) : List Nat :=
  if isSyllable n then takeSyllable n
  else
    match pair? n with
    | none => [n]
    | some (a, b) => if a < n then takeApart a ++ [b] else [n]
termination_by n

/-- Puts a mark before those marks at the end that have a higher class. The list is in reverse. -/
def place (n : Nat) : List Nat → List Nat
  | [] => [n]
  | last :: before =>
    if combiningClass n ≠ 0 ∧ combiningClass n < combiningClass last then last :: place n before
    else n :: last :: before

/-- All characters taken apart, with marks in the order of their classes. -/
def decompose (text : List Nat) : List Nat :=
  ((text.flatMap takeApart).foldl (fun done n => place n done) []).reverse

/-! ## Together -/

/-- All composed characters with their pairs. -/
def pairs : List (Nat × Nat × Nat) :=
  (Runs.all pairRuns).filterMap fun (n, action) =>
    match Runs.numbers (action.drop 1) with
    | [a, b] => some (n, a, b)
    | _ => none

def composeSyllable? (a b : Nat) : Option Nat :=
  if 0x1100 ≤ a ∧ a < 0x1113 ∧ 0x1161 ≤ b ∧ b < 0x1176 then
    some (0xAC00 + ((a - 0x1100) * 21 + (b - 0x1161)) * 28)
  else if isSyllable a ∧ (a - 0xAC00) % 28 = 0 ∧ 0x11A8 ≤ b ∧ b < 0x11C3 then some (a + (b - 0x11A7))
  else none

def compose? (a b : Nat) : Option Nat :=
  (composeSyllable? a b).or ((pairs.find? fun (_, c, d) => c = a && d = b).map (·.1))

/-- Composes what follows a first character into it. `held` are marks that stay behind it, in reverse. -/
def composeFrom (first : Nat) (held : List Nat) : List Nat → List Nat
  | [] => first :: held.reverse
  | n :: rest =>
    let free := match held with
      | [] => true
      | last :: _ => combiningClass last < combiningClass n
    match if free then compose? first n else none with
    | some together => composeFrom together held rest
    | none =>
      if combiningClass n = 0 then (first :: held.reverse) ++ composeFrom n [] rest
      else composeFrom first (n :: held) rest

def compose : List Nat → List Nat
  | [] => []
  | n :: rest => if combiningClass n = 0 then composeFrom n [] rest else n :: compose rest

/-- The composed form of a text. -/
def normalize (text : List Char) : List Char :=
  (compose (decompose (text.map (·.toNat)))).map Char.ofNat

end ReverseProxy.Unicode
