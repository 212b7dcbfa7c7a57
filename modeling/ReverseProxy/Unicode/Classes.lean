import ReverseProxy.Unicode.Runs

/-! # Classes of characters -/

namespace ReverseProxy.Unicode

/-- The marks, which belong to the character before them. -/
def markRuns : Runs := [
  (0x0300, "70."),
  (0x0483, "7."),
  (0x0591, "2D. - . - 2. - 2. - . 48- B. 30- 15. 10- ."),
  (0x06D6, "7. 2- 6. 2- 2. - 4. 23- . 1E- 1B. 5B- B. 3A- 9. 9- . 18- 4. - 9. - 3. - 5. 2B- 3."),
  (0x085C, "3B- 9. 2A- 18. - 21. 36- 3. - 12. - 7. A- 2. 1D- 3. 38- . - 7. 2- 2. 2- 3. 9- . A-"),
  (0x09E2, "2. 1A- . 2- 3. 38- . - 5. 4- 2. 2- 3. 3- . 1E- 2. 3- . B- 3. 38- . - 8. - 3. - 3."),
  (0x0ACE, "14- 2. 16- 6. - 3. 38- . - 7. 2- 2. 2- 3. 7- 3. A- 2. 1E- . 3B- 5. 3- 3. - 4. 9- ."),
  (0x0BD8, "28- 5. 37- . - 7. - 3. - 4. 7- 2. B- 2. 1D- 3. 38- . - 7. - 3. - 4. 7- 2. B- 2. F- ."),
  (0x0CF4, "C- 4. 37- 2. - 7. - 3. - 4. 9- . A- 2. 1D- 3. 46- . 4- 6. - . - 8. 12- 2. 3D- . 2-"),
  (0x0E34, "7. C- 8."),
  (0x0EB1, ". 2- 9. B- 7. 49- 2. 1B- . - . - . 4- 2. 31- 14. - 2. 5- B. - 24. 9- ."),
  (0x102B, "14. 17- 4. 4- 3. - 3. 2- 7. 3- 4. D- C. - . A- 4."),
  (0x135D, "3."),
  (0x1712, "4. 1C- 3. 1D- 2. 1E- 2. 40- 20. 9- . 2D- 3. - ."),
  (0x1885, "2. 22- ."),
  (0x1920, "C. 4- C."),
  (0x1A17, "5. 39- A. - 1D. 2- . 30- 2E. 2- C. 14- 5. 2F- 11. 26- 9. C- 3. 1E- D. 38- E. 30- 14."),
  (0x1CD0, "3. - 15. 4- . 6- . 2- 3."),
  (0x1DC0, "40."),
  (0x20D0, "21."),
  (0x2CEF, "3."),
  (0x2D7F, ". 60- 20."),
  (0x302A, "6."),
  (0x3099, "2."),
  (0xA66F, "4. - A. 20- 2. 50- 2."),
  (0xA802, ". 3- . 4- . 17- 5. 4- . 53- 2. 32- 12. 1A- 12. D- . 26- 8. 19- D. 2C- 4. 2F- E. 24-"),
  (0xA9E5, ". 43- E. C- . 8- 2. 2D- 3. 32- . - 3. 2- 2. 5- 2. - . 29- 5. 5- 2."),
  (0xABE3, "8. - 2."),
  (0xFB1E, "."),
  (0xFE00, "10. 10- 10."),
  (0x101FD, "."),
  (0x102E0, "."),
  (0x10376, "5."),
  (0x10A01, "3. - 2. 5- 4. 28- 3. 4- ."),
  (0x10AE5, "2."),
  (0x10D24, "4. 41- 5."),
  (0x10EAB, "2. 4D- 6. 46- B. 31- 4."),
  (0x11000, "3. 35- F. 29- . 2- 2. A- 4. 2D- B. 7- . 3D- 3. 24- E. 10- 2. 2C- . C- 3. 30- E. 8-"),
  (0x111C9, "4. - 2. 5C- C. 6- . 2- ."),
  (0x112DF, "C. 15- 4. 37- 2. - 7. 2- 2. 2- 3. 9- . A- 2. 2- 7. 3- 5. 43- 9. - . 2- . - 4. - 5. -"),
  (0x113D2, ". E- 2. 52- 12. 17- . 51- 14."),
  (0x115AF, "7. 2- 9. 1B- 2. 52- 11."),
  (0x116AB, "D."),
  (0x1171D, "F."),
  (0x1182C, "F."),
  (0x11930, "6. - 2. 2- 4. - . - 2."),
  (0x119D1, "7. 2- 7. 3- . 1C- A. 28- 7. - 4. 8- . 9- B. 2E- 10."),
  (0x11B60, "8."),
  (0x11C2F, "8. - 8. 52- 16. - E."),
  (0x11D31, "6. 3- . - 2. - 7. - . 42- 5. - 2. - 5."),
  (0x11EF3, "4. 9- 2. - . 30- 7. 3- 5. 17- ."),
  (0x13440, ". 6- F."),
  (0x1611E, "12."),
  (0x16AF0, "5. 3B- 7."),
  (0x16F4F, ". - 37. 7- 4. 51- . B- 2."),
  (0x1BC9D, "2."),
  (0x1CF00, "2E. 2- 17."),
  (0x1D165, "5. 3- 6. 8- 8. 2- 7. 1E- 4."),
  (0x1D242, "3."),
  (0x1DA00, "37. 4- 32. 8- . E- . 16- 5. - F."),
  (0x1E000, "7. - 11. 2- 7. - 2. - 5."),
  (0x1E08F, "."),
  (0x1E130, "7."),
  (0x1E2AE, ". 3D- 4."),
  (0x1E4EC, "4."),
  (0x1E5EE, "2."),
  (0x1E6E3, ". 2- . 7- 2. 5- ."),
  (0x1E8D0, "7."),
  (0x1E944, "7."),
  (0xE0100, "F0.")]

/-- How characters join in a cursive script: `d` to both sides, `l` to the left, `r` to the right. `t` is
passed over. -/
def joiningRuns : Runs := [
  (0x00AD, "t"),
  (0x0300, "70t"),
  (0x0483, "7t"),
  (0x0591, "2Dt - t - 2t - 2t - t 48- Bt - t 3- d - 4r d r d r 5d 4r Dd - 7d r 2d 15t E- 2d t 3r"),
  (0x0674, "- 3r 10d 12r 26d r 2d 9r d r d r 2d 2r - r 7t 2- 6t 2- 2t - 4t 2r A- 3d 2- d F- t r"),
  (0x0711, "t 3d 5r 4d r 9d r d r d r 2d r 1Bt 2- r Bd 3r Fd 2r 4d r d 2r 3d 2r 6d 26- Bt 19-"),
  (0x07CA, "21d 9t 9- t 18- 4t - 9t - 3t - 5t 12- r 5d 2r d r Ad r d 3r 3t 4- d - 4d - r d 2r 5-"),
  (0x0870, "13r 3- d 2- 5d r d 7- 9t Ad 3r - r 2d 2r 6d r Fd - 18t - 20t 37- t - t 4- 8t 4- t 3-"),
  (0x0951, "7t A- 2t 1D- t 3A- t 4- 4t 8- t 14- 2t 1A- t 2- 2t 39- t 4- 2t 4- 2t 2- 3t 3- t 1E-"),
  (0x0A70, "2t 3- t B- 2t 39- t 4- 5t - 2t 4- t 14- 2t 16- 6t - t 3A- t 2- t - 4t 8- t 7- 2t B-"),
  (0x0B62, "2t 1E- t 3D- t C- t 32- t 3- t 37- t - 3t 5- 3t - 4t 7- 2t B- 2t 1D- t 3A- t 2- t 6-"),
  (0x0CC6, "t 5- 2t 14- 2t 1C- 2t 39- 2t 4- 4t 8- t 14- 2t 1D- t 48- t 7- 3t - t 5A- t 2- 7t C-"),
  (0x0E47, "8t"),
  (0x0EB1, "t 2- 9t B- 7t 49- 2t 1B- t - t - t 37- Et - 5t - 2t 5- Bt - 24t 9- t"),
  (0x102D, "4t - 6t - 2t 2- 2t 19- 2t 4- 3t 10- 4t D- t 2- 2t 6- t F- t"),
  (0x135D, "3t"),
  (0x1712, "3t 1D- 2t 1E- 2t 1E- 2t 40- 2t - 7t 8- t 2- Bt 9- t 29- d 3- 3t - t 10- 59d C- 2t"),
  (0x1887, "22d t d"),
  (0x1920, "3t 4- 2t 9- t 6- 3t"),
  (0x1A17, "2t 2- t 3A- t - 7t - t - t 2- 8t 6- At 2- t 30- 2Et 2- Ct 14- 4t 30- t - 5t - t 5- t"),
  (0x1B43, "28- 9t C- 2t 20- 4t 2- 2t - 3t 38- t - 2t 3- t - 3t 3A- 8t 2- 2t"),
  (0x1CD0, "3t - Dt - 7t 4- t 6- t 3- 2t"),
  (0x1DC0, "40t"),
  (0x200B, "t 2- 2t 1A- 5t 31- 5t 5- 6t 60- 21t"),
  (0x2CEF, "3t"),
  (0x2D7F, "t 60- 20t"),
  (0x302A, "4t"),
  (0x3099, "2t"),
  (0xA66F, "4t - At 20- 2t 50- 2t"),
  (0xA802, "t 3- t 4- t 19- 2t 5- t 13- 32d l 51- 2t 1A- 12t D- t 26- 8t 19- Bt 2E- 3t 30- t 2-"),
  (0xA9B6, "4t 2- 2t 27- t 43- 6t 2- 2t 2- 2t C- t 8- t 2F- t 33- t - 3t 2- 2t 5- 2t - t 2A- 2t"),
  (0xAAEE, "8- t"),
  (0xABE5, "t 2- t 4- t"),
  (0xFB1E, "t"),
  (0xFE00, "10t 10- 10t"),
  (0xFEFF, "t"),
  (0xFFF9, "3t"),
  (0x101FD, "t"),
  (0x102E0, "t"),
  (0x10376, "5t"),
  (0x10A01, "3t - 2t 5- 4t 28- 3t 4- t"),
  (0x10AC0, "5d r - r - 2r 2- l 5r 4d l 5d r 3d r 2- r 2t 4- 4d r"),
  (0x10B80, "d r d 3r 3d r 2d r d 2r d r 17- 4r 2d"),
  (0x10D00, "l 21d r d 4t 41- 5t"),
  (0x10EAB, "2t 15- r 2d - 2d 32- 6t 30- 3d r 11d - Bt 3d r 1B- 4d 2r Cd 4t 2A- d - 2d 3r - d 2r"),
  (0x10FBB, "2d r 2d - d 2r d 4- r d l 35- t 36- Ft 29- t 2- 2t A- 3t 31- 4t 2- 2t 7- t 3D- 3t"),
  (0x11103, "24- 5t - 8t 3E- t C- 2t 34- 9t A- 4t 2- t 5F- 3t 2- t - 2t 6- t 2- t"),
  (0x112DF, "t 3- 8t 15- 2t 39- 2t 3- t 25- 7t 3- 5t 46- 6t D- t - t - t E- 2t 55- 8t 2- 3t - t"),
  (0x11447, "17- t 54- 6t - t 4- 2t - 2t"),
  (0x115B2, "4t 6- 2t - 2t 1B- 2t 55- 8t 2- t - 2t"),
  (0x116AB, "t - t 2- 6t - t"),
  (0x1171D, "t - t 2- 4t - 5t"),
  (0x1182F, "9t - 2t"),
  (0x1193B, "2t - t 4- t"),
  (0x119D4, "4t 2- 2t 4- t 20- At 28- 6t 2- 4t 8- t 9- 6t 2- 3t 2E- Dt - 2t"),
  (0x11B60, "t - 3t - t"),
  (0x11C30, "7t - 6t - t 52- 16t 2- 7t - 2t - 2t"),
  (0x11D31, "6t 3- t - 2t - 7t - t 48- 2t 3- t - t"),
  (0x11EF3, "2t B- 2t 34- 5t 5- t - t 17- t"),
  (0x13430, "11t 6- Ft"),
  (0x1611E, "Ct 3- 3t"),
  (0x16AF0, "5t 3B- 7t"),
  (0x16F4F, "t 3F- 4t 51- t"),
  (0x1BC9D, "2t - 4t"),
  (0x1CF00, "2Et 2- 17t"),
  (0x1D167, "3t 9- 10t 2- 7t 1E- 4t"),
  (0x1D242, "3t"),
  (0x1DA00, "37t 4- 32t 8- t E- t 16- 5t - Ft"),
  (0x1E000, "7t - 11t 2- 7t - 2t - 5t"),
  (0x1E08F, "t"),
  (0x1E130, "7t"),
  (0x1E2AE, "t 3D- 4t"),
  (0x1E4EC, "4t"),
  (0x1E5EE, "2t"),
  (0x1E6E3, "t 2- t 7- 2t 5- t"),
  (0x1E8D0, "7t 29- 44d 8t"),
  (0xE0001, "t 1E- 60t"),
  (0xE0100, "F0t")]

/-- Directions of writing: `r` right to left, `a` Arabic digits, `e` European digits, `m` marks, `n` neither,
`x` never in a name of both directions. All others are `l`, left to right. -/
def directionRuns : Runs := [
  (0x0000, "9n 5x En 5x Fn Ae 27n 1Al 5Dn 1Fl n"),
  (0x02B9, "2n 7l En 2l 1Cn l 11n 70m 5l n"),
  (0x03F6, "n"),
  (0x0483, "7m"),
  (0x058A, "6n l 2Dm r m r 2m r 2m r m 8l 25r 11l 2n r 2n r n r 2n Bm 30r 15m Aa n 2a 3r m 65r"),
  (0x06D6, "7m l n 6m 2r 2m n 4m 2r Ae 17r m 1Er 1Bm 2l 59r Bm 3Ar 9m 2r 4n r 2l m 18r 4m r 9m r"),
  (0x0825, "3m r 5m 2l 29r 3m 2l 32r 7l 9m 2Ar 39m 37l m l m 4l 8m 4l m 3l 7m Al 2m 1Dl m 3Al m"),
  (0x09BD, "4l 4m 8l m 14l 2m El 2n 7l n 2l 5m 39l m 4l 11m 1El 2m 3l m Bl 2m 39l m 4l 8m 4l m"),
  (0x0ACE, "14l 2m Dl n 8l 8m 3Al m 2l m l 4m 8l Am Bl 2m 1El m 3Dl m Cl m 25l 8n 5l m 3l m 37l"),
  (0x0C3C, "m l 3m 5l 11m Bl 2m 14l 7n 2l m 3Al m Fl 2m 14l 2m Fl Fm 39l 2m 4l 4m 8l m 14l 2m"),
  (0x0D64, "1Dl m 48l m 7l 5m 5Al m 2l 7m 4l n 7l 8m"),
  (0x0EB1, "m 2l 9m Bl 7m 49l 2m 1Bl m l m l m 4n 33l Em l 5m l 2m 5l 30m 9l m"),
  (0x102D, "4m l 6m l 2m 2l 2m 19l 2m 4l 3m 10l 4m Dl m 2l 2m 6l m Fl m"),
  (0x135D, "3m 30l An"),
  (0x1400, "n"),
  (0x169B, "2n"),
  (0x1712, "3m 1Dl 2m 1El 2m 1El 2m 43l 7m 8l m 2l Bm 7l n l m 12l 1Bn"),
  (0x1885, "2m 22l m"),
  (0x1920, "3m 4l 2m 9l m 6l 3m 4l 6n"),
  (0x19DE, "22n 17l 2m 2l m 3Al m l 9m l m 2l 8m 6l Dm 30l 54m 30l m l 5m l m 5l m 28l 9m Cl 2m"),
  (0x1B82, "20l 4m 2l 2m l 3m 38l m l 2m 3l m l 3m 3Al 8m 2l 2m"),
  (0x1CD0, "3m l Dm l 7m 4l m 6l m 3l 2m"),
  (0x1DC0, "40m"),
  (0x200C, "B5n Fl 21m 13l 4An 3Cl 1ACn 45l 1An l 91n 19l 26Cn l 153n"),
  (0x2900, "296n l 69n"),
  (0x2CE5, "6n 4l 3m 7l 7n"),
  (0x2D7F, "m 60l 20m F3n"),
  (0x3001, "4n 3l 19n 9l 4m 2l n 6l n 5l 3n 59l 2m 5l n 5Al n"),
  (0x31C0, "24n"),
  (0x4DC0, "40n"),
  (0xA490, "37n"),
  (0xA60D, "3n 5Fl 4m n Am 2n 1El 2m 50l 2m El 22n"),
  (0xA788, "n"),
  (0xA802, "m 3l m 4l m 19l 2m l 4n m Bl 2n 3Al 4n 4Cl 2m 1Al 12m Dl m 26l 8m 19l Bm 2El 3m 30l"),
  (0xA9B3, "m 2l 4m 2l 2m 27l m 43l 6m 2l 2m 2l 2m Cl m 8l m 2Fl m 33l m l 3m 2l 2m 5l 2m l m"),
  (0xAAC2, "2Al 2m 8l m"),
  (0xAB6A, "2n"),
  (0xABE5, "m 2l m 4l m"),
  (0xFB1E, "m"),
  (0xFBB2, "11r"),
  (0xFD3E, "12n"),
  (0xFDCF, "31n 20l 10m 15l 2n 2Cl r"),
  (0x10101, "n 3El 4Dn 3l 11n 5Cl m"),
  (0x102E0, "m 1Be"),
  (0x10376, "5m"),
  (0x10800, "11Cr 3l n E1r Fm 26r 2l 8m A5r 2m 4l 4Br 3l 7n 1E4r 4m 8l Aa 6l 10r 19l 5m 22r"),
  (0x10E60, "1Fa l 2Ar l 2m 2Cr 21l 6m 46r Bm 31r 4m 71r Al m 36l Fm Bl 14n Al m 2l 2m Al 3m 31l"),
  (0x110B3, "4m 2l 2m 7l m 3Dl 3m 24l 5m l 8m 3El m Cl 2m 34l 9m Al 4m 2l m 5Fl 3m 2l m l 2m 6l m"),
  (0x1123F, "2l m"),
  (0x112DF, "m 3l 8m 15l 2m 39l 2m 3l m 25l Fm 43l 19m l m El 2m 55l 8m 2l 3m l m 17l m 54l 6m l"),
  (0x114BA, "m 4l 2m l 2m"),
  (0x115B2, "4m 6l 2m l 2m 1Bl 2m 55l 8m 2l m l 2m 1Fl Dn 3El m l m 2l 6m l m"),
  (0x1171D, "3m 2l 4m l 5m"),
  (0x1182F, "9m l 2m"),
  (0x1193B, "2m l m 4l m"),
  (0x119D4, "8m 4l m 20l 6m 2l 2m 28l 6m 2l 4m 8l m 9l 6m 2l 3m 2El Dm l 2m"),
  (0x11B60, "8m"),
  (0x11C30, "Em 54l 16m 2l 7m l 2m l 2m"),
  (0x11D31, "15m l m 48l 2m 3l m l m"),
  (0x11EF3, "2m Bl 2m l m 30l Fm 17l m"),
  (0x11FD5, "1Dn"),
  (0x13440, "m 6l Fm"),
  (0x1611E, "12m"),
  (0x16AF0, "5m 3Bl 7m"),
  (0x16F4F, "m 3Fl 4m 4Fl n l m"),
  (0x1BC9D, "2m"),
  (0x1CF00, "47m"),
  (0x1D167, "3m 11l 8m 2l 7m 1El 4m 3Bl 59n 3m n"),
  (0x1D300, "57n"),
  (0x1DA00, "37m 4l 32m 8l m El m 16l 15m"),
  (0x1E000, "90m"),
  (0x1E130, "7m"),
  (0x1E2AE, "m 3Dl 4m Fl n"),
  (0x1E4EC, "4m"),
  (0x1E5EE, "2m"),
  (0x1E6E3, "m 2l m 7l 2m 5l m"),
  (0x1E800, "D0r 7m 4Bl 22r 7m 15r"),
  (0x1EC71, "CDr"),
  (0x1EEF0, "2n"),
  (0x1F000, "130n 3Dl 3n 3Dl n"),
  (0x1F260, "478n 5l 97n Cl 59n 7l D2n 4El 154n Cl 15n 3l Fn 9l 1Dn 3l Bn 5l 6n Al An 6l 8n 8l 7n"),
  (0x1FAF7, "9l CBn")]

/-- The class of a character in a table, if it has one. -/
def classIn (runs : Runs) (c : Char) : Option Char := (Runs.find? runs c.toNat).bind (·.2.head?)

def isMark (c : Char) : Bool := classIn markRuns c = some '.'

def joining (c : Char) : Option Char := classIn joiningRuns c

def direction (c : Char) : Char := (classIn directionRuns c).getD 'l'

end ReverseProxy.Unicode
