/-!
# General categories

Which characters belong to the values of the Unicode property
`General_Category`.  The groups of categories are unions and are not listed.
The ranges are written in the base 16, each as its distance from the end of the
range before it and, behind a plus sign, how many characters follow its first.
-/

namespace Flowline.Regex

/-- The names of every general category and its ranges. -/
def generalCategories : List (List String × String) := [
  (["Cc", "Control", "Cntrl"],
    "0+1F 60+20"),
  (["Cf", "Format"],
    "AD 553+5 17 C1 32 181+1 51 F2C 7FD+4 1B+4 32+4 2+9 DE90 FA+2 10C2 10 2363+F 8861+3
    14D0+7 C2E87 1F+5F"),
  (["Cn", "Unassigned"],
    "378+1 7+3 8 2 15 18E 27+1 33+1 4 38+7 1C+3 7+A 10F 3D+1 66+D 3C+1 32+1 10 1D+1 2
    C+4 23+4 EE 9+1 3+1 17 8 2+2 5+1 A+1 3+1 5+7 2+3 3 6+1 1A+1 4 7+3 3+1 17 8 3 3 3+1
    2 6+3 3+1 4+2 2+6 5 2+6 12+9 4 A 4 17 8 3 6+1 B 4 4+1 2+E 5+1 D+6 8 4 9+1 3+1 17 8
    3 6+1 A+1 3+1 4+6 4+3 3 6+1 13+9 3 7+2 4 5+2 3 2 3+2 3+2 4+2 D+3 6+2 4 5+1 2+5 2+D
    16+4 E 4 18 11+1 A 4 5+6 3 4 3+1 5+1 B+6 17 4 18 B 6+1 A 4 5+6 3+4 4 5+1 B 4+B E 4
    34 4 7+3 11+1 1B 4 13+2 19 A 2+1 8+2 2+3 7 2 9+5 B+1 4+B 3B+3 1E+24 3 2 6 19 2 18+1
    6 2 8 B+1 5+1F 49 25+3 28 25 10 E+24 C7 2+4 2+1 17A 5+1 8 2 5+1 2A 5+1 22 5+1 8 2
    5+1 10 3A 5+1 44+1 21+2 1B+5 57+1 7+1 29E+2 5A+6 17+8 19+8 15+B E 4 3+B 5F+1 B+5
    B+5 1B+5 5A+6 2C+4 47+9 20 D+3 D+3 2+2 2B+1 6+A 2D+3 1B+5 C+2 3F+1 42 1E+1 C+5 B+5
    F+1 2F+1 D+13 4E A7+7 3D+2 10+2 3F+4 2C+1 C+7 2C+4 217+1 7+1 27+1 7+1 9 2 2 2 20+1
    36 10 F+1 7 14+1 4 A 66 D+1 1C E+2 23+D 22+E 8D+3 29B+15 C+14 715+1 17F+4 2E 2+4
    2+1 39+6 3+D 19+8 8 8 8 8 8 8 8 8 7F+21 1B 5A+B D7+19 51 57+1 68+4 2C 5F 57+8 31
    726E+2 38+8 15D+13 B9+7 DE+13 3D+2 B+5 39+7 47+7 D+5 75+A 1F+2 4F C+3 22 38+8 F+1
    B+1 68+17 1D+9 7+1 7+1 7+8 8 8 3D+3 7F+1 B+5 2BA5+B 18+3 32+3 226F+1 6B+25 8+B 6+4
    1B 6 2 3 3 28B+1F 2B+5 34 14 5+3 6 88+1 2 BF+2 7+1 7+1 7+1 4+2 8 8+9 6+1 D 1B 14 3
    10+1 F+21 7C+4 4+3 2E+2 59 E+2 2+2E 2F+81 1E+2 32+E 1D+3 25+8 1F+4 2C+4 1F 26+3
    F+29 9F+1 B+5 25+3 25+3 29+7 35+A D 10 8 3 C 10 8 3+2 35+B 138+8 17+9 9+17 7 2B
    A+44 7+1 2 2D 3+2 2+1 18 49+7 A+2F 14 3+4 22+2 1C+4 1C+25 39+3 15+1 33 3+4 9 4 1E+1
    4+3 B+6 A+6 41+1F 28+3 D+8 37+2 1E+1 1C+4 1B+6 5+B 8+4F 4A+36 34+C 34+6 2F+7 B+5
    27+2 1E+7 3+CF 20 2B 4+1 3+F 7+7 A+20 2F+7 2B+15 1B+25 1D+13 18+8 4F+3 25+8 45+9
    2+1 1A+6 B+5 36 13+7 28+8 61 15+A 13 30+3D 8 2 5 10 C+5 3C+4 B+5 5 9+1 3+1 17 8 3 6
    B+1 3+1 4+1 2+5 2+4 8+1 8+2 6+A B 2+1 2 27 B 2+1 2 5 B 3+7 3+1C 5D 6+1D 49+7 B+A5
    37+1 27+21 46+A B+5 E+12 3B+5 B+5 15+1B 1C+1 10+3 18+B8 3D+63 54+B 9+1 2+1 9 3 1F
    3+1 D+8 B+45 9+1 2F+1 C+1A 49+7 54+C 4A+6 B+55 9+57 23+D B+5 A 2E F+9 1E+2 21+1 17
    F+48 8 3 2D+2 2 3 A+7 B+5 7 3 26 3 7+6 B+5 2D+3 B+F5 1A+6 12 2A+2 1E+54 2+E 33+C
    39C+65 70 6+A C5+A4B 64+C 457+9 F9C+4 248+1AB8 3B+6C5 23A+6 20 B+3 52 B+5 1F+1 7+9
    47+9 B 8 16+4 14+1AF 3B+C5 5C+4 1A+1 1A+2B 4C+3 3A+6 12+3F 6+A 8+8 1CD7+28 21+60
    74+21FC 5 8 3 124+E 2+1C 4+1 2+D 5+7 18D+903 6C+4 E+2 A+6 B+1 9+F5B FE+2 1B5+5 18+E
    12+E 2F+1 18+8 75+3B F7+9 28+1 C3+14 47+79 15+B 15+B 58+8 1A+86 56 48 3+1 2+1 3+1 5
    D 2 8 42 5+1 9 8 1D 5 6 2+2 8 155+1 125+1 2BF+E 6 10+44F 20+5 7+D4 8 12+1 8 3 6+4
    3F+20 2+6F 2E+2 F+1 B+3 3+13F 20+10 3B+4 2+1CF 2B+D5 2C+3 2+BF 20 17+7 3+DF 8 5 3
    10 C6+1 11+28 4D+3 B+3 3+310 45+4B 3E+C1 5 1C 3 2+1 2 B 5 2 2+5 2+3 2 2 2 4 3 2+1 2
    2 2 2 2 3 2+1 5 8 5 5 2 B 12+4 4 6 12+33 3+10D 2D+3 65+B 10+1 10 10 26+9 AF+37 1E+C
    2D+3 A+6 3+D 7+99 3DA+2 12+2 E+2 DB+5 D+3 2+E D+3 39+7 B+5 29+7 1F+1 D+3 3+D A+26
    159+7 F+1 E+2 C+2 3A 2+3 11+1 D+3 B+6 94 68+404 A6E1+1F 111F+1 168F+1 1D32+E
    26F+9A1 21F+5E1 134C+4 212B+ACB86 2+1D 61+7F F1+FE0F FFFF+1 FFFF+1"),
  (["Co", "Private_Use"],
    "E000+18FF E0701+FFFD 3+FFFD"),
  (["Ll", "Lowercase_Letter"],
    "61+19 3B 2A+17 2+7 2 2 2 2 2 2 2 2 2 2 2 2 2 2 2 2 2 2 2 2 2 2 2 2 2 2 2 2+1 2 2 2
    2 2 2 2 2+1 2 2 2 2 2 2 2 2 2 2 2 2 2 2 2 2 2 2 2 2 2 2 2 3 2 2+2 3 2 3 4+1 5 3 4+2
    3 3 2 2 3 2+1 2 3 4 2 3+1 3+2 7 3 3 2 2 2 2 2 2 2 2+1 2 2 2 2 2 2 2 2 2+1 3 2 4 2 2
    2 2 2 2 2 2 2 2 2 2 2 2 2 2 2 2 2 2 2 2 2 2 2 2 2 2 2+6 3 3+1 2 5 2 2 2 2+44 3+19
    C2 2 4 4+2 13 1C+22 2+1 4+2 2 2 2 2 2 2 2 2 2 2 2 2+4 2 3 3+1 34+2F 2 2 2 2 2 2 2 2
    2 2 2 2 2 2 2 2 2 A 2 2 2 2 2 2 2 2 2 2 2 2 2 2 2 2 2 2 2 2 2 2 2 2 2 2 3 2 2 2 2 2
    2+1 2 2 2 2 2 2 2 2 2 2 2 2 2 2 2 2 2 2 2 2 2 2 2 2 2 2 2 2 2 2 2 2 2 2 2 2 2 2 2 2
    2 2 2 2 2 2 2 2 31+28 B48+2A 3+2 2F9+5 883+8 2 76+2B 40+C 2+21 67 2 2 2 2 2 2 2 2 2
    2 2 2 2 2 2 2 2 2 2 2 2 2 2 2 2 2 2 2 2 2 2 2 2 2 2 2 2 2 2 2 2 2 2 2 2 2 2 2 2 2 2
    2 2 2 2 2 2 2 2 2 2 2 2 2 2 2 2 2 2 2 2 2 2 2+8 2 2 2 2 2 2 2 2 2 2 2 2 2 2 2 2 2 2
    2 2 2 2 2 2 2 2 2 2 2 2 2 2 2 2 2 2 2 2 2 2 2 2 2 2 2 2 2 2 2+8 9+5 B+7 9+7 9+5 B+7
    9+7 9+D 3+7 9+7 9+7 9+4 2+1 7 4+2 2+1 9+3 3+1 9+7 B+2 2+1 113 4+1 4 1C 5 5 3+1 9+3
    5 36 AAC+2F 2 4+1 2 2 2 5 2+1 2+5 6 2 2 2 2 2 2 2 2 2 2 2 2 2 2 2 2 2 2 2 2 2 2 2 2
    2 2 2 2 2 2 2 2 2 2 2 2 2 2 2 2 2 2 2 2 2 2 2 2 2+1 8 2 5 D+25 2 6 7914 2 2 2 2 2 2
    2 2 2 2 2 2 2 2 2 2 2 2 2 2 2 2 14 2 2 2 2 2 2 2 2 2 2 2 2 2 88 2 2 2 2 2 2+2 2 2 2
    2 2 2 2 2 2 2 2 2 2 2 2 2 2 2 2 2 2 2 2 2 2 2 2 2 2 2 2 2+7 2 2 3 2 2 2 2 5 2 3 2+2
    2 2 2 2 2 2 2 2 2 2 6 6 2 2 2 2 2 2 2 5 2 3 2 2 2 2 2 2 2 1B 4 336+2A 6+8 8+4F
    4F41+6 D+4 42A+19 4CE+27 89+23 9C+A 2+E 2+6 2+1 704+32 7E+15 B3B+1F 5581+1F 3C+18
    6547+19 1B+6 2+11 1B+19 1B+3 2 2+6 2+A 1B+19 1B+19 1B+19 1B+19 1B+19 1B+19 1B+19
    1B+19 1B+1B 1D+18 2+5 1B+18 2+5 1B+18 2+5 1B+18 2+5 1B+18 2+5 2 735+9 2+13 7+5
    9F8+21"),
  (["Lm", "Modifier_Letter"],
    "2B0+11 5+B F+4 8 2 86 6 1DF E7 A5+1 10E+1 5 20 A 4 A1 A8 4D5 80 236 6DB 6C 264
    1D1+5 AF+3E E 23+24 2B2 E 11+C BE0+1 F2 C0 1D6 2C+4 6 62+1 5E+2 6F17 4E3+5 10F 73
    1D+1 7A+8 51 18 69+3 4+1 1D6 17 8A 6D 16+1 68+3 A 5407 2E+1 7E1+5 2+29 2+8 594 21
    156 F14 4D67+3 1FD+2 29+1 227+C 41+1 2 F+1 3FFD+3 2+6 2+1 3032+3D CA+6 3AE 214 24C"),
  (["Lo", "Other_Letter"],
    "AA 10 101 5+3 D1+1 33B+1A 5+3 2E+1F 2+9 24+1 2+62 2 19+1 B+2 3 11 2+1D 1E+58 C
    19+20 16+15 2B+18 8+A 6+17 2+6 11+28 3C+35 4 13 8+9 11+E 5+7 3+1 3+15 2+6 2 4+3 4
    11 E+1 2+2 F+1 B 9+5 5+1 3+15 2+6 2+1 2+1 2+1 20+3 2 14+2 11+8 2+2 2+15 2+6 2+1 2+4
    4 13 10+1 18 C+7 3+1 3+15 2+6 2+1 2+4 4 1F+1 2+2 10 12 2+5 4+2 2+3 4+1 2 2+1 4+1
    4+2 4+B 17 35+7 2+2 2+16 2+F 4 1B+2 2+1 3+1 1F 5+7 2+2 2+16 2+9 2+4 4 1F+2 2+1 10+1
    12+8 2+2 2+28 3 11 6+2 9+2 19+5 6+11 4+17 2+8 2 3+6 3B+2F 2+1 D+5 3C+1 2 2+4 2+17 2
    2+9 2+1 A 3+4 18+3 21 40+7 2+23 1C+4 74+2A 15 11+5 5+3 4 4+1 8+2 5+C D 72+148 2+3
    3+6 2 2+3 3+28 2+3 3+20 2+3 3+6 2 2+3 3+E 2+38 2+3 3+42 26+F 72+26B 3+10 2+19 6+4A
    7+7 8+11 E+12 F+11 F+C 2+2 10+33 29 44+22 2+34 8+4 3+21 2 6+45 B+1E 32+1D 3+4 C+2B
    5+19 37+16 A+34 B1+2E 12+7 37+1D E+1 B+2B 1B+23 2A+2 B+1D 72+3 2+5 2+1 4 43B+3
    BF8+37 19+16 A+6 2+6 2+6 2+6 2+6 2+6 2+6 2+6 228 36 5+55 9 2+59 5 6+2A 2+5D 12+1F
    31+F 201+19BF 41+5214 2+476 44+27 9+10B 5+F B+1 43 32+45 AA 68 4+6 2+2 2+3 2+16
    1E+33 F+31 3F+5 4 2+1 C+1B B+16 1A+1C 8+2E 2E+4 3+8 B+4 2+28 18+2 2+7 15+F 2+5 4
    4+31 2 4+1 3+4 3 2 19+1 4+A 8 F+5 3+5 3+5 A+6 2+6 92+22 1E+2BA3 D+16 5+30 2105+16D
    3+69 44 2+9 2+C 2+4 2 2+1 2+1 2+6B 22+16A 13+3F 3+35 29+B 75+4 2+86 6A+9 2+2C 3+1E
    4+5 3+5 3+5 3+2 24+B 2+19 2+12 2+1 2+E 3+D 23+7A 186+1C 4+30 30+1F E+13 2+7 7+25
    B+1D 3+23 5+7 81+4D 63+27 9+33 5D+33 D+136 A+15 B+7 99+5 3 2+2B 2+1 4 3+16 B+16
    A+1E 42+12 2+1 B+15 B+19 7+19 27+37 7+1 41 10+3 2+2 2+1C 2B+1C 4+1C 24+7 2+1B 1C+35
    B+15 B+12 E+11 6F+48 B8+23 27+3 2 131+29 7+1 11+2 2+1 39+1C B 9+15 2B+11 2F+14
    1C+16 D+34 3A+1 3 E+2C 21+18 1B+23 1E 3 9+22 4 D+2F F+3 16 2 24+11 2+18 14+1 40+6 2
    2+3 2+E 2+9 8+2E 27+7 3+1 3+15 2+6 2+1 2+4 4 13 D+4 1F+9 2 3 2+25 2 1A 2 2D+34 13+3
    15+2 1F+2F 15+1 2 B9+2E 2A+3 25+2F 15 3C+2A E 48+1A 26+6 BA+2B D4+7 3 3+7 2+1 2+17
    10 2 5F+7 3+26 11 2 1D B+27 8 16 C+2D 14 13+48 C8+20 20+8 2+24 12 32+1D 71+6 2+1
    2+25 16 1A+5 2+1 2+1F F 18+28 2+1 105+12 10 2+C 2+21 7D 50+399 E7+C3 A4D+60 10+42F
    12+5 1A+F9A 6+246 1ABA+1D 6E3+238 8+1E 12+4E 12+1D 13+2F 34+14 6+12 1B4+27 196+4A 6
    B0+1CD5 2A+1F 62+72 220E+122 10 1E+2 3 F+3 9+18B 905+6A 6+C 4+8 8+9 2271 1F6+2C 22
    142+1D 13+2B 1E5+1A E6+1D 3 D0+1E 2+2 2+1 2+6 3+4 A E2+6 2+3 2+1 2+E 2+C4 53C+3
    2+1A 2+1 2 3 2+9 2+3 2 2 7 5 2 2 2+2 2+1 2 3 2 2 2 2 2+1 2 3+3 2+6 2+3 2+3 2 2+9
    2+10 6+2 2+4 2+10 1145+A6DF 21+111D 3+168D 3+1D30 10+26D 9A3+21D 5E3+134A 6+2129"),
  (["Lt", "Titlecase_Letter"],
    "1C5 3 3 27 1D96+7 9+7 9+7 D 10 30"),
  (["Lu", "Uppercase_Letter"],
    "41+19 66+16 2+6 22 2 2 2 2 2 2 2 2 2 2 2 2 2 2 2 2 2 2 2 2 2 2 2 2 2 2 2 3 2 2 2 2
    2 2 2 3 2 2 2 2 2 2 2 2 2 2 2 2 2 2 2 2 2 2 2 2 2 2 2+1 2 2 4+1 2 2+1 2+2 3+3 2+1
    2+2 4+1 2+1 2 2 2+1 2 3 2+1 2+2 2 2+1 4 8 3 3 3 2 2 2 2 2 2 2 3 2 2 2 2 2 2 2 2 3 3
    2+2 2 2 2 2 2 2 2 2 2 2 2 2 2 2 2 2 2 2 2 2 2 2 2 2 2 2 2 2 2 8+1 2+1 3 2+3 2 2 2 2
    122 2 4 9 7 2+2 2 2+1 2+10 2+8 24 3+2 4 2 2 2 2 2 2 2 2 2 2 2 6 3 2+1 3+32 31 2 2 2
    2 2 2 2 2 2 2 2 2 2 2 2 2 A 2 2 2 2 2 2 2 2 2 2 2 2 2 2 2 2 2 2 2 2 2 2 2 2 2 2 2+1
    2 2 2 2 2 2 3 2 2 2 2 2 2 2 2 2 2 2 2 2 2 2 2 2 2 2 2 2 2 2 2 2 2 2 2 2 2 2 2 2 2 2
    2 2 2 2 2 2 2 2 2 2 2 2 3+25 B4A+25 2 6 2D3+55 894 7+2A 3+2 141 2 2 2 2 2 2 2 2 2 2
    2 2 2 2 2 2 2 2 2 2 2 2 2 2 2 2 2 2 2 2 2 2 2 2 2 2 2 2 2 2 2 2 2 2 2 2 2 2 2 2 2 2
    2 2 2 2 2 2 2 2 2 2 2 2 2 2 2 2 2 2 2 2 2 2 A 2 2 2 2 2 2 2 2 2 2 2 2 2 2 2 2 2 2 2
    2 2 2 2 2 2 2 2 2 2 2 2 2 2 2 2 2 2 2 2 2 2 2 2 2 2 2 2 2 A+7 9+5 B+7 9+7 9+5 C 2 2
    2 9+7 49+3 D+3 D+3 D+4 C+3 107 5 4+2 3+2 3 4+4 7 2 2 2+3 3+3 B+1 6 3E A7D+2F 31 2+2
    3 2 2 2+3 2 3 9+2 2 2 2 2 2 2 2 2 2 2 2 2 2 2 2 2 2 2 2 2 2 2 2 2 2 2 2 2 2 2 2 2 2
    2 2 2 2 2 2 2 2 2 2 2 2 2 2 2 2 9 2 5 794E 2 2 2 2 2 2 2 2 2 2 2 2 2 2 2 2 2 2 2 2
    2 2 14 2 2 2 2 2 2 2 2 2 2 2 2 2 88 2 2 2 2 2 2 4 2 2 2 2 2 2 2 2 2 2 2 2 2 2 2 2 2
    2 2 2 2 2 2 2 2 2 2 2 2 2 B 2 2+1 2 2 2 2 5 2 3 2 4 2 2 2 2 2 2 2 2 2 2+4 2+4 2 2 2
    2 2 2 2 2+3 2 2+1 2 2 2 2 2 2 2 2 19 572C+19 4C6+27 89+23 9D+A 2+E 2+6 2+1 6EB+32
    9E+15 B3B+1F 5581+1F 41+18 6548+19 1B+19 1B+19 1B 2+1 3 3+1 3+3 2+7 1B+19 1B+1 2+3
    3+7 2+6 1C+1 2+3 2+4 2 4+6 1C+19 1B+19 1B+19 1B+19 1B+19 1B+19 1F+18 22+18 22+18
    22+18 22+18 22 1136+21"),
  (["Mc", "Spacing_Mark"],
    "903 38 3+2 9+3 2+1 33+1 3B+2 7+1 3+1 B 2C 3B+2 43 3B+2 9 2+1 36+1 3B 2 7+1 3+1 B
    67+1 2+1 4+2 2+2 B 2A+2 3E+3 3E+1 3B 2+4 3+1 2+1 A+1 1D F+1 3B+2 6+2 2+2 B 2B+1
    4C+2 7+7 13+1 14B+1 40 AC+1 5 7 3+1 1A+1 B+2 3+6 16+1 3+5 3 B+2 679 1F 82 8+7 2+1
    15B+3 3+2 5+1 2+5 E1+1 3B 2 A 2+1 9+5 92 31 6 2+4 2+1 3E 1F 5+1 3 3D 3+2 2 4+1 31+7
    9+1 AC 16 1337+1 77F4+1 3 59+1 33+F 8F+1 30 31+1 5+1 3+2 6F+1 3+1 19 2E 2 6E 3+1 6
    EE+1 2+1 2+1 2 6414 2 80 2E+2 5+1 74 19+1 3C 31+2 A+1 E 5E+2 4+1 2 AB+2 20+1 3B+1
    2+3 3+1 3+2 A B+1 55+2 8 3 2+3 2+1 2 66+2 9+1 4 6B+2 7 2+3 3 EE+2 7+3 3 72+2 9+1 2
    6E 2+1 7 68 2+1 5 106+2 A F8+5 2+1 5 3 2 8F+2 9+3 5 55 1E+1 3F CA 4 2 C8 F 6B 8 3
    D6+4 5+1 2 15F+1 D 31+1 9+1 2 41E9+2 E25+36 69+1 6174+1 7+5"),
  (["Me", "Enclosing_Mark"],
    "488+1 1635 61F+3 2+2 858C+2"),
  (["Mn", "Nonspacing_Mark"],
    "300+6F 114+4 10A+2C 2 2+1 2+1 2 49+A 31+14 11 66+6 3+5 3+1 2+3 24 1F+1A 5C+A 3B+8 A
    19+3 2+8 2+2 2+4 2C+2 3C+8 2B+17 2+1F 38 2 5+7 5 4+6 B+1 1E 3B 5+3 9 15+1 1B 3+1 3A
    5+1 5+1 3+2 4 1F+1 4 C+1 3A 5+4 2+1 5 15+1 17+5 2 3B 3 2+3 9 8+1 C+1 1F 3E D 33 4
    38 2+2 6+2 2+3 8+1 C+1 1E 3B 3 7 6+1 15+1 1D+1 3A+1 5+3 9 15+1 1E 49 8+2 2 5B 3+6
    D+7 63 3+8 C+6 4A+1 1C 2 2 38+D 2+4 2+1 6+A 2+23 A 67+3 2+5 2+1 3+1 1A+1 5+2 11+3 E
    3+1 7 10 2C0+2 3B3+2 1E+1 1F+1 1F+1 41+1 2+6 9 3+A A 2E+2 2 76+1 23 77+2 5+1 A 7+2
    DC+1 3 3B 2+6 2 2 3+7 7+9 3 31+D 2+1E 3+B 15+3 31 2+4 2 6 29+8 D+1 21+3 3+1 2+2 39
    2+1 4 2+2 3B+7 3+1 99+2 2+C 2+6 5 7 4+1 C7+3F 2D1+C 5 4+B BFF+2 8E 61+1F 22B+3 6C+1
    75D5 5+9 21+1 51+1 111 4 5 1A+1 6 98+1 1B+11 E 27+7 1A+A 2F+2 31 3+3 3+1 28 44+5
    3+1 3+1 D 9 30 34 2+2 3+1 6+1 2 2B+1 9 EF 3 5 4F31 2E2+F 11+F 3CE E3 96+4 687+2 2+1
    6+3 29+2 5 A6+1 23E+3 42+4 13E+1 4E+5 47+A 32+3 7C 37+E 2A 3+1 B+2 32+3 3+1 8 3E+2
    25+4 2+7 3F D+1 35+8 B+3 3 60+2 3 2+1 7 3 9E 4+7 16+1 3A+1 4 26+6 4+4 47+5 E 2 2
    F+1 56+7 3+2 2 18 55+5 2 5+1 2+1 EF+3 7+1 2+1 1C+1 56+7 3 2+1 6B 2 3+5 2 66 2 3+3
    2+4 104+8 2+1 101+1 2 5 91+3 3+1 5 21+9 29+5 3+3 9 A+5 3+2 2F+C 2+1 C7 2+2 2 CA+6
    2+5 2 53+15 3+6 2+1 2+1 7B+5 4 2+1 2+6 2 49+1 4 2 15C+1 C+1 35+4 6 2 18 14E6 7+E
    2CC9+B 4+2 9C1+4 3C+6 419 40+3 52 4CB9+1 1262+2D 3+16 221+2 12+7 3+6 1F+3 95+2
    7BC+36 5+31 9 F 17+4 2+E 551+6 2+10 3+6 2+1 2+4 65 A1+6 178 3E+3 1FD+3 FF+1 F4 3
    8+1 6 1DB+6 6E+6 C17B6+EF"),
  (["Nd", "Decimal_Number", "Digit"],
    "30+9 627+9 87+9 C7+9 19D+9 77+9 77+9 77+9 77+9 77+9 77+9 77+9 77+9 77+9 61+9 77+9
    47+9 117+9 47+9 747+9 27+9 12D+9 81+9 A7+9 7+9 B7+9 57+9 87+9 7+9 89C7+9 2A7+9 27+9
    C7+9 17+9 57+9 197+9 5317+9 587+9 887+9 7+9 31D+9 81+9 3D+9 91+9 117+9 157+9 77+9
    177+9 67+9 7+13 4D+9 1A7+9 67+9 297+9 57+9 F7+9 47+9 37+9 167+9 41D7+9 927+9 57+9
    87+9 217+9 5F77+9 AD5+31 941+9 1A7+9 1F7+9 F8+9 356+9 1297+9"),
  (["Nl", "Letter_Number"],
    "16EE+2 A70+22 3+3 E7F 1A+8 F+2 76AC+9 5A51+34 1CD 9 87+4 202B+6E 4B86+2"),
  (["No", "Other_Number"],
    "B2+1 6 3+2 936+5 179+5 79+2 86+6 DA+6 12+8 1B2+9 436+13 474+9 1E1 696 4+5 7+9 C7+F
    2A 2D7+3B 4F+15 277+1D 56A 495+3 8B+9 1F+7 2+E 21+9 28+E 7571+5 58D2+2C 42+3 12+1
    156+1A 25+3 535+7 1A+6 28+8 4C+4 17+5 A1+1 3+F 3+2D 41+8 35+1 1F+2 4C+4 69+7 19+7
    2A+6 14B+5 161+1E 9F+9 2B+3 71+6 87+13 17C+13 546+1 1AF+8 368+12 354+14 4B87+6
    31F+16 642A+13 D+13 6D+18 154F+8 3A2+3A 2+2 2+3 4D+2C 2+E 3C3+C"),
  (["Pc", "Connector_Punctuation"],
    "5F 1FE0+1 14 DDDF+1 19+2 F0"),
  (["Pd", "Dash_Punctuation"],
    "2D 55D 34 E42 406 80A+5 E02 3 20+1 5 1D 1BF 14 70 CD91+1 26 B AA E61 13F"),
  (["Pe", "Close_Punctuation"],
    "29 34 20 EBE 2 75F 9AA 38 10 27B 2 1F 43F 2 2 2 2 2 2 51 21 2 2 2 2 195 2 2 2 2 2 2
    2 2 2 2 41 2 22 426 2 2 2 2D 2 2 2 1AD 2 2 2 2 4 2 2 2 3+1 CD1F DA 1E 2 2 2 2 2 2 2
    4 12 2 2 AB 34 20 3 3"),
  (["Pf", "Final_Punctuation"],
    "BB 1F5E 4 1D DC9 2 5 3 10 4"),
  (["Pi", "Initial_Punctuation"],
    "AB 1F6D 3+1 3 1A DC9 2 5 3 10 4"),
  (["Po", "Other_Punctuation"],
    "21+2 2+2 3 2 2+1 B+1 4+1 1C 45 6 F+1 8 2BF 9 1D3+5 2A 37 3 3 2D+1 15+1 2+1 E 2+2
    4B+3 67 2C+D EA+2 37+E 20 106+1 B 8D 79 7A 187 D 170 5B B+1 A9+E 2 71 4B+4 5+1 70+5
    AC 265+8 306 7D+2 48+1 9E+2 2+2 26+5 2+3 13A+1 D9+1 81+6 2+5 A1+1 B+6 1D+2 7D+3
    3C+4 3F+1 41+7 C 343+1 9+7 9+8 3+3 3+2 4+A 2 2+9 C9B+3 2+1 71 90+1 5+2 3 3+8 2+1 2
    3+1 B+4 2+9 3+3 2 2+C 3+2 1AD+2 3A BE 7403+1 10E+2 64 B 74+5 17D+3 57+1 29+2 2 32+1
    30 62+C 11+1 7D+3 7F+1 11+1 FA 5225+6 3 17 15+1 3+3 4+2 2+3 8+2 7 2+1 96+2 2+2 3 2
    2+1 B+1 4+1 1C 25 3+1 19B+2 29D 31 19F 2E8 C8 20 111+8 27 71+6 43+6 5A+3 334 85+4
    2D+3 BE+6 6E+1 2+3 7F+3 31+1 50+3 5 E 2+2 59+5 6C 12B+1 2+1 73+4 B+1 2 69 FB+16
    6A+2 1D+C 4D 83+2 FD 109+2 9C 5D+7 54+2 2+4 5E+9 D8 60+4 2B+1 286+1 4B+C B0 471+4
    B7D+1 3A7C+1 86 42+4 9 229+2 128+3 148 4CBD 1DE8+4 B74 35F+1"),
  (["Ps", "Open_Punctuation"],
    "28 33 20 EBF 2 75F 97F 4 27 38 10 27B 2 1F 43F 2 2 2 2 2 2 51 21 2 2 2 2 195 2 2 2
    2 2 2 2 2 2 2 41 2 22 426 2 2 2 1A 13 2 2 2 1AD 2 2 2 2 4 2 2 2 3 CD22 D8 1E 2 2 2
    2 2 2 2 4 12 2 2 AB 33 20 4 3"),
  (["Sc", "Currency_Symbol"],
    "24 7E+3 4EA 7C 1F3+1 1F3+1 8 F6 108 246 99C 8C5+21 8777 55C4 6D 9B DC+1 4+1 1FF7+3
    C31F 9B1"),
  (["Sk", "Modifier_Symbol"],
    "5E 2 48 7 5 4 20A+3 D+D 6+6 2 2+10 76 F+1 503 1735 2+2 C+2 E+2 E+2 E+1 109D+1
    7664+16 A+1 68+1 3D1 F+1 5047+10 37C 2 A3 F418+4"),
  (["Sm", "Math_Symbol"],
    "2B 11+2 3E 2 2E 5 26 20 2FF 210+2 1A3C E 28+2 E+2 8C 28+4 7 45+4 6+1 5 3 3 8 20+1 3
    2 20+10B 21+1 5B 1F+18 29+5 1D6 A 37+7 70 151+4 3+1E B+F 101+82 17+3E 5+1F 3+101
    31+14 3+5 CFDD 339 2+2 A5 11+2 3E 2 84 7+3 DA2+1 C161 7D1 1A 20 1A 20 1A 20 1A 20
    1A 172D+1 9DF+8"),
  (["So", "Other_Symbol"],
    "A6 3 5 2 3D2 10B+1 80+1 CF B 14+1 F8 204 176 83+5 2 85 D0 2A 188+2 10 2+2 3+5 15 2
    2 86+7 2+5 2+1 6+3 C6+1 2F1+9 2D4 2D3 9E+21 162+9 A+8 584+1 2+3 2+1 B 2+1 7+5 2 2 2
    5 C+1 F 2+1 2 3B+1 A+4 3+3 2+1 2+1 2+6 2+1E 3+1 2 2+1E 10D+7 5+13 3+6 3+50 2+1D
    1A+27 7+47 17+A 52+4D 17+B6 2+8 2+35 9+6E 2+F7 2D+2B 41+FF 201+2F 16+1 7+26 3+89
    E6+5 166+1 2F+19 2+58 D+D5 1B+F 5 E+1 D 16+1 7+1 151+1 5+9 21+25 A 11+1E C+1D 9
    10+1F B+26 10+13F 19C1+3F 5691+36 362+3 B+1 2 23E+2 514A+F 16E+F 41+1 37+7 2E+2 1E5
    4 5+1 E+1 13A+8 3A+10 3+2 2+C 4 30+2C 67B+1 250 409+7 867 896+7 5+10 4B4B+3 6 5157
    F64+EF B+2 4+1B3 7+16 10+F 61+73 3D+F5 B+26 3+3B 6+2 17+1 8+1D 5+3C 16+41 4 BB+56
    4AA+1FF 38+3 33+7 2+D 2+1 6C9 B5D 82 2D2+2B 5+63 D+E 3+E 2+E 2+24 18+A0 39+1C E+2B
    5+8 8+1 F+5 9B+FA 6+2D8 4+10 4+C 4+D9 7+B 5 10+B 5+37 9+9 7+27 9+1D 3+B 5+1 3F+157
    9+D 3+C 4+A 4+38 2 5+F 3+B 5+9 8+92 2+5B B"),
  (["Zl", "Line_Separator"],
    "2028"),
  (["Zp", "Paragraph_Separator"],
    "2029"),
  (["Zs", "Space_Separator"],
    "20 80 15E0 980+A 25 30 FA1")]

end Flowline.Regex
