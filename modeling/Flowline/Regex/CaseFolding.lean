/-!
# Simple case folding

Characters that count as equal when case is ignored, after the simple case
folding of Unicode.  The text lists classes in the base 16: the first character,
and behind each plus sign the distance to the next one.
-/

namespace Flowline.Regex

/-- The classes of characters that differ in case only. -/
def caseClasses : String :=
  "41+20 42+20 43+20 44+20 45+20 46+20 47+20 48+20 49+20 4A+20 4B+20+20BF 4C+20 4D+20
  4E+20 4F+20 50+20 51+20 52+20 53+20+10C 54+20 55+20 56+20 57+20 58+20 59+20 5A+20
  DF+1DBF C0+20 C1+20 C2+20 C3+20 C4+20 C5+20+2046 C6+20 C7+20 C8+20 C9+20 CA+20 CB+20
  CC+20 CD+20 CE+20 CF+20 D0+20 D1+20 D2+20 D3+20 D4+20 D5+20 D6+20 D8+20 D9+20 DA+20
  DB+20 DC+20 DD+20 DE+20 FF+79 100+1 102+1 104+1 106+1 108+1 10A+1 10C+1 10E+1 110+1
  112+1 114+1 116+1 118+1 11A+1 11C+1 11E+1 120+1 122+1 124+1 126+1 128+1 12A+1 12C+1
  12E+1 132+1 134+1 136+1 139+1 13B+1 13D+1 13F+1 141+1 143+1 145+1 147+1 14A+1 14C+1
  14E+1 150+1 152+1 154+1 156+1 158+1 15A+1 15C+1 15E+1 160+1 162+1 164+1 166+1 168+1
  16A+1 16C+1 16E+1 170+1 172+1 174+1 176+1 179+1 17B+1 17D+1 180+C3 182+1 184+1 187+1
  18B+1 191+1 195+61 198+1 19A+A3 19E+82 1A0+1 1A2+1 1A4+1 1A7+1 1AC+1 1AF+1 1B3+1
  1B5+1 1B8+1 1BC+1 1BF+38 1C4+1+1 1C7+1+1 1CA+1+1 1CD+1 1CF+1 1D1+1 1D3+1 1D5+1 1D7+1
  1D9+1 1DB+1 18E+4F 1DE+1 1E0+1 1E2+1 1E4+1 1E6+1 1E8+1 1EA+1 1EC+1 1EE+1 1F1+1+1
  1F4+1 1F8+1 1FA+1 1FC+1 1FE+1 200+1 202+1 204+1 206+1 208+1 20A+1 20C+1 20E+1 210+1
  212+1 214+1 216+1 218+1 21A+1 21C+1 21E+1 222+1 224+1 226+1 228+1 22A+1 22C+1 22E+1
  230+1 232+1 23B+1 23F+2A3F 240+2A3F 241+1 246+1 248+1 24A+1 24C+1 24E+1 250+2A1F
  251+2A1C 252+2A1E 181+D2 186+CE 189+CD 18A+CD 18F+CA 190+CB 25C+A54F 193+CD 261+A54B
  194+CF 265+A528 266+A544 197+D1 196+D3 26A+A544 26B+29F7 26C+A541 19C+D3 271+29FD
  19D+D5 19F+D6 27D+29E7 1A6+DA 282+A543 1A9+DA 287+A52A 1AE+DA 244+45 1B1+D9 1B2+D9
  245+47 1B7+DB 29D+A515 29E+A512 370+1 372+1 376+1 37B+82 37C+82 37D+82 386+26 388+25
  389+25 38A+25 391+20 392+20+1E 393+20 394+20 395+20+40 396+20 397+20 398+20+19+23
  345+54+20+1C05 39A+20+36 39B+20 B5+2E7+20 39D+20 39E+20 39F+20 3A0+20+16 3A1+20+30
  3A3+1F+1 3A4+20 3A5+20 3A6+20+F 3A7+20 3A8+20 3A9+20+1D5D 3AA+20 3AB+20 38C+40 38E+3F
  38F+3F 3CF+8 3D8+1 3DA+1 3DC+1 3DE+1 3E0+1 3E2+1 3E4+1 3E6+1 3E8+1 3EA+1 3EC+1 3EE+1
  3F2+7 37F+74 3F7+1 3FA+1 410+20 411+20 412+20+184E 413+20 414+20+184D 415+20 416+20
  417+20 418+20 419+20 41A+20 41B+20 41C+20 41D+20 41E+20+1844 41F+20 420+20
  421+20+1842 422+20+1842+1 423+20 424+20 425+20 426+20 427+20 428+20 429+20
  42A+20+183C 42B+20 42C+20 42D+20 42E+20 42F+20 400+50 401+50 402+50 403+50 404+50
  405+50 406+50 407+50 408+50 409+50 40A+50 40B+50 40C+50 40D+50 40E+50 40F+50 460+1
  462+1+1824 464+1 466+1 468+1 46A+1 46C+1 46E+1 470+1 472+1 474+1 476+1 478+1 47A+1
  47C+1 47E+1 480+1 48A+1 48C+1 48E+1 490+1 492+1 494+1 496+1 498+1 49A+1 49C+1 49E+1
  4A0+1 4A2+1 4A4+1 4A6+1 4A8+1 4AA+1 4AC+1 4AE+1 4B0+1 4B2+1 4B4+1 4B6+1 4B8+1 4BA+1
  4BC+1 4BE+1 4C1+1 4C3+1 4C5+1 4C7+1 4C9+1 4CB+1 4CD+1 4C0+F 4D0+1 4D2+1 4D4+1 4D6+1
  4D8+1 4DA+1 4DC+1 4DE+1 4E0+1 4E2+1 4E4+1 4E6+1 4E8+1 4EA+1 4EC+1 4EE+1 4F0+1 4F2+1
  4F4+1 4F6+1 4F8+1 4FA+1 4FC+1 4FE+1 500+1 502+1 504+1 506+1 508+1 50A+1 50C+1 50E+1
  510+1 512+1 514+1 516+1 518+1 51A+1 51C+1 51E+1 520+1 522+1 524+1 526+1 528+1 52A+1
  52C+1 52E+1 531+30 532+30 533+30 534+30 535+30 536+30 537+30 538+30 539+30 53A+30
  53B+30 53C+30 53D+30 53E+30 53F+30 540+30 541+30 542+30 543+30 544+30 545+30 546+30
  547+30 548+30 549+30 54A+30 54B+30 54C+30 54D+30 54E+30 54F+30 550+30 551+30 552+30
  553+30 554+30 555+30 556+30 10D0+BC0 10D1+BC0 10D2+BC0 10D3+BC0 10D4+BC0 10D5+BC0
  10D6+BC0 10D7+BC0 10D8+BC0 10D9+BC0 10DA+BC0 10DB+BC0 10DC+BC0 10DD+BC0 10DE+BC0
  10DF+BC0 10E0+BC0 10E1+BC0 10E2+BC0 10E3+BC0 10E4+BC0 10E5+BC0 10E6+BC0 10E7+BC0
  10E8+BC0 10E9+BC0 10EA+BC0 10EB+BC0 10EC+BC0 10ED+BC0 10EE+BC0 10EF+BC0 10F0+BC0
  10F1+BC0 10F2+BC0 10F3+BC0 10F4+BC0 10F5+BC0 10F6+BC0 10F7+BC0 10F8+BC0 10F9+BC0
  10FA+BC0 10FD+BC0 10FE+BC0 10FF+BC0 13A0+97D0 13A1+97D0 13A2+97D0 13A3+97D0 13A4+97D0
  13A5+97D0 13A6+97D0 13A7+97D0 13A8+97D0 13A9+97D0 13AA+97D0 13AB+97D0 13AC+97D0
  13AD+97D0 13AE+97D0 13AF+97D0 13B0+97D0 13B1+97D0 13B2+97D0 13B3+97D0 13B4+97D0
  13B5+97D0 13B6+97D0 13B7+97D0 13B8+97D0 13B9+97D0 13BA+97D0 13BB+97D0 13BC+97D0
  13BD+97D0 13BE+97D0 13BF+97D0 13C0+97D0 13C1+97D0 13C2+97D0 13C3+97D0 13C4+97D0
  13C5+97D0 13C6+97D0 13C7+97D0 13C8+97D0 13C9+97D0 13CA+97D0 13CB+97D0 13CC+97D0
  13CD+97D0 13CE+97D0 13CF+97D0 13D0+97D0 13D1+97D0 13D2+97D0 13D3+97D0 13D4+97D0
  13D5+97D0 13D6+97D0 13D7+97D0 13D8+97D0 13D9+97D0 13DA+97D0 13DB+97D0 13DC+97D0
  13DD+97D0 13DE+97D0 13DF+97D0 13E0+97D0 13E1+97D0 13E2+97D0 13E3+97D0 13E4+97D0
  13E5+97D0 13E6+97D0 13E7+97D0 13E8+97D0 13E9+97D0 13EA+97D0 13EB+97D0 13EC+97D0
  13ED+97D0 13EE+97D0 13EF+97D0 13F0+8 13F1+8 13F2+8 13F3+8 13F4+8 13F5+8 1D79+8A04
  1D7D+EE6 1D8E+8A38 1E00+1 1E02+1 1E04+1 1E06+1 1E08+1 1E0A+1 1E0C+1 1E0E+1 1E10+1
  1E12+1 1E14+1 1E16+1 1E18+1 1E1A+1 1E1C+1 1E1E+1 1E20+1 1E22+1 1E24+1 1E26+1 1E28+1
  1E2A+1 1E2C+1 1E2E+1 1E30+1 1E32+1 1E34+1 1E36+1 1E38+1 1E3A+1 1E3C+1 1E3E+1 1E40+1
  1E42+1 1E44+1 1E46+1 1E48+1 1E4A+1 1E4C+1 1E4E+1 1E50+1 1E52+1 1E54+1 1E56+1 1E58+1
  1E5A+1 1E5C+1 1E5E+1 1E60+1+3A 1E62+1 1E64+1 1E66+1 1E68+1 1E6A+1 1E6C+1 1E6E+1
  1E70+1 1E72+1 1E74+1 1E76+1 1E78+1 1E7A+1 1E7C+1 1E7E+1 1E80+1 1E82+1 1E84+1 1E86+1
  1E88+1 1E8A+1 1E8C+1 1E8E+1 1E90+1 1E92+1 1E94+1 1EA0+1 1EA2+1 1EA4+1 1EA6+1 1EA8+1
  1EAA+1 1EAC+1 1EAE+1 1EB0+1 1EB2+1 1EB4+1 1EB6+1 1EB8+1 1EBA+1 1EBC+1 1EBE+1 1EC0+1
  1EC2+1 1EC4+1 1EC6+1 1EC8+1 1ECA+1 1ECC+1 1ECE+1 1ED0+1 1ED2+1 1ED4+1 1ED6+1 1ED8+1
  1EDA+1 1EDC+1 1EDE+1 1EE0+1 1EE2+1 1EE4+1 1EE6+1 1EE8+1 1EEA+1 1EEC+1 1EEE+1 1EF0+1
  1EF2+1 1EF4+1 1EF6+1 1EF8+1 1EFA+1 1EFC+1 1EFE+1 1F00+8 1F01+8 1F02+8 1F03+8 1F04+8
  1F05+8 1F06+8 1F07+8 1F10+8 1F11+8 1F12+8 1F13+8 1F14+8 1F15+8 1F20+8 1F21+8 1F22+8
  1F23+8 1F24+8 1F25+8 1F26+8 1F27+8 1F30+8 1F31+8 1F32+8 1F33+8 1F34+8 1F35+8 1F36+8
  1F37+8 1F40+8 1F41+8 1F42+8 1F43+8 1F44+8 1F45+8 1F51+8 1F53+8 1F55+8 1F57+8 1F60+8
  1F61+8 1F62+8 1F63+8 1F64+8 1F65+8 1F66+8 1F67+8 1F70+4A 1F71+4A 1F72+56 1F73+56
  1F74+56 1F75+56 1F76+64 1F77+64 1F78+80 1F79+80 1F7A+70 1F7B+70 1F7C+7E 1F7D+7E
  1F80+8 1F81+8 1F82+8 1F83+8 1F84+8 1F85+8 1F86+8 1F87+8 1F90+8 1F91+8 1F92+8 1F93+8
  1F94+8 1F95+8 1F96+8 1F97+8 1FA0+8 1FA1+8 1FA2+8 1FA3+8 1FA4+8 1FA5+8 1FA6+8 1FA7+8
  1FB0+8 1FB1+8 1FB3+9 1FC3+9 1FD0+8 1FD1+8 1FE0+8 1FE1+8 1FE5+7 1FF3+9 2132+1C 2160+10
  2161+10 2162+10 2163+10 2164+10 2165+10 2166+10 2167+10 2168+10 2169+10 216A+10
  216B+10 216C+10 216D+10 216E+10 216F+10 2183+1 24B6+1A 24B7+1A 24B8+1A 24B9+1A
  24BA+1A 24BB+1A 24BC+1A 24BD+1A 24BE+1A 24BF+1A 24C0+1A 24C1+1A 24C2+1A 24C3+1A
  24C4+1A 24C5+1A 24C6+1A 24C7+1A 24C8+1A 24C9+1A 24CA+1A 24CB+1A 24CC+1A 24CD+1A
  24CE+1A 24CF+1A 2C00+30 2C01+30 2C02+30 2C03+30 2C04+30 2C05+30 2C06+30 2C07+30
  2C08+30 2C09+30 2C0A+30 2C0B+30 2C0C+30 2C0D+30 2C0E+30 2C0F+30 2C10+30 2C11+30
  2C12+30 2C13+30 2C14+30 2C15+30 2C16+30 2C17+30 2C18+30 2C19+30 2C1A+30 2C1B+30
  2C1C+30 2C1D+30 2C1E+30 2C1F+30 2C20+30 2C21+30 2C22+30 2C23+30 2C24+30 2C25+30
  2C26+30 2C27+30 2C28+30 2C29+30 2C2A+30 2C2B+30 2C2C+30 2C2D+30 2C2E+30 2C2F+30
  2C60+1 23A+2A2B 23E+2A28 2C67+1 2C69+1 2C6B+1 2C72+1 2C75+1 2C80+1 2C82+1 2C84+1
  2C86+1 2C88+1 2C8A+1 2C8C+1 2C8E+1 2C90+1 2C92+1 2C94+1 2C96+1 2C98+1 2C9A+1 2C9C+1
  2C9E+1 2CA0+1 2CA2+1 2CA4+1 2CA6+1 2CA8+1 2CAA+1 2CAC+1 2CAE+1 2CB0+1 2CB2+1 2CB4+1
  2CB6+1 2CB8+1 2CBA+1 2CBC+1 2CBE+1 2CC0+1 2CC2+1 2CC4+1 2CC6+1 2CC8+1 2CCA+1 2CCC+1
  2CCE+1 2CD0+1 2CD2+1 2CD4+1 2CD6+1 2CD8+1 2CDA+1 2CDC+1 2CDE+1 2CE0+1 2CE2+1 2CEB+1
  2CED+1 2CF2+1 10A0+1C60 10A1+1C60 10A2+1C60 10A3+1C60 10A4+1C60 10A5+1C60 10A6+1C60
  10A7+1C60 10A8+1C60 10A9+1C60 10AA+1C60 10AB+1C60 10AC+1C60 10AD+1C60 10AE+1C60
  10AF+1C60 10B0+1C60 10B1+1C60 10B2+1C60 10B3+1C60 10B4+1C60 10B5+1C60 10B6+1C60
  10B7+1C60 10B8+1C60 10B9+1C60 10BA+1C60 10BB+1C60 10BC+1C60 10BD+1C60 10BE+1C60
  10BF+1C60 10C0+1C60 10C1+1C60 10C2+1C60 10C3+1C60 10C4+1C60 10C5+1C60 10C7+1C60
  10CD+1C60 A640+1 A642+1 A644+1 A646+1 A648+1 1C88+89C2+1 A64C+1 A64E+1 A650+1 A652+1
  A654+1 A656+1 A658+1 A65A+1 A65C+1 A65E+1 A660+1 A662+1 A664+1 A666+1 A668+1 A66A+1
  A66C+1 A680+1 A682+1 A684+1 A686+1 A688+1 A68A+1 A68C+1 A68E+1 A690+1 A692+1 A694+1
  A696+1 A698+1 A69A+1 A722+1 A724+1 A726+1 A728+1 A72A+1 A72C+1 A72E+1 A732+1 A734+1
  A736+1 A738+1 A73A+1 A73C+1 A73E+1 A740+1 A742+1 A744+1 A746+1 A748+1 A74A+1 A74C+1
  A74E+1 A750+1 A752+1 A754+1 A756+1 A758+1 A75A+1 A75C+1 A75E+1 A760+1 A762+1 A764+1
  A766+1 A768+1 A76A+1 A76C+1 A76E+1 A779+1 A77B+1 A77E+1 A780+1 A782+1 A784+1 A786+1
  A78B+1 A790+1 A792+1 A794+30 A796+1 A798+1 A79A+1 A79C+1 A79E+1 A7A0+1 A7A2+1 A7A4+1
  A7A6+1 A7A8+1 A7B4+1 A7B6+1 A7B8+1 A7BA+1 A7BC+1 A7BE+1 A7C0+1 A7C2+1 A7C7+1 A7C9+1
  A7D0+1 A7D6+1 A7D8+1 A7F5+1 A7B3+3A0 FF21+20 FF22+20 FF23+20 FF24+20 FF25+20 FF26+20
  FF27+20 FF28+20 FF29+20 FF2A+20 FF2B+20 FF2C+20 FF2D+20 FF2E+20 FF2F+20 FF30+20
  FF31+20 FF32+20 FF33+20 FF34+20 FF35+20 FF36+20 FF37+20 FF38+20 FF39+20 FF3A+20
  10400+28 10401+28 10402+28 10403+28 10404+28 10405+28 10406+28 10407+28 10408+28
  10409+28 1040A+28 1040B+28 1040C+28 1040D+28 1040E+28 1040F+28 10410+28 10411+28
  10412+28 10413+28 10414+28 10415+28 10416+28 10417+28 10418+28 10419+28 1041A+28
  1041B+28 1041C+28 1041D+28 1041E+28 1041F+28 10420+28 10421+28 10422+28 10423+28
  10424+28 10425+28 10426+28 10427+28 104B0+28 104B1+28 104B2+28 104B3+28 104B4+28
  104B5+28 104B6+28 104B7+28 104B8+28 104B9+28 104BA+28 104BB+28 104BC+28 104BD+28
  104BE+28 104BF+28 104C0+28 104C1+28 104C2+28 104C3+28 104C4+28 104C5+28 104C6+28
  104C7+28 104C8+28 104C9+28 104CA+28 104CB+28 104CC+28 104CD+28 104CE+28 104CF+28
  104D0+28 104D1+28 104D2+28 104D3+28 10570+27 10571+27 10572+27 10573+27 10574+27
  10575+27 10576+27 10577+27 10578+27 10579+27 1057A+27 1057C+27 1057D+27 1057E+27
  1057F+27 10580+27 10581+27 10582+27 10583+27 10584+27 10585+27 10586+27 10587+27
  10588+27 10589+27 1058A+27 1058C+27 1058D+27 1058E+27 1058F+27 10590+27 10591+27
  10592+27 10594+27 10595+27 10C80+40 10C81+40 10C82+40 10C83+40 10C84+40 10C85+40
  10C86+40 10C87+40 10C88+40 10C89+40 10C8A+40 10C8B+40 10C8C+40 10C8D+40 10C8E+40
  10C8F+40 10C90+40 10C91+40 10C92+40 10C93+40 10C94+40 10C95+40 10C96+40 10C97+40
  10C98+40 10C99+40 10C9A+40 10C9B+40 10C9C+40 10C9D+40 10C9E+40 10C9F+40 10CA0+40
  10CA1+40 10CA2+40 10CA3+40 10CA4+40 10CA5+40 10CA6+40 10CA7+40 10CA8+40 10CA9+40
  10CAA+40 10CAB+40 10CAC+40 10CAD+40 10CAE+40 10CAF+40 10CB0+40 10CB1+40 10CB2+40
  118A0+20 118A1+20 118A2+20 118A3+20 118A4+20 118A5+20 118A6+20 118A7+20 118A8+20
  118A9+20 118AA+20 118AB+20 118AC+20 118AD+20 118AE+20 118AF+20 118B0+20 118B1+20
  118B2+20 118B3+20 118B4+20 118B5+20 118B6+20 118B7+20 118B8+20 118B9+20 118BA+20
  118BB+20 118BC+20 118BD+20 118BE+20 118BF+20 16E40+20 16E41+20 16E42+20 16E43+20
  16E44+20 16E45+20 16E46+20 16E47+20 16E48+20 16E49+20 16E4A+20 16E4B+20 16E4C+20
  16E4D+20 16E4E+20 16E4F+20 16E50+20 16E51+20 16E52+20 16E53+20 16E54+20 16E55+20
  16E56+20 16E57+20 16E58+20 16E59+20 16E5A+20 16E5B+20 16E5C+20 16E5D+20 16E5E+20
  16E5F+20 1E900+22 1E901+22 1E902+22 1E903+22 1E904+22 1E905+22 1E906+22 1E907+22
  1E908+22 1E909+22 1E90A+22 1E90B+22 1E90C+22 1E90D+22 1E90E+22 1E90F+22 1E910+22
  1E911+22 1E912+22 1E913+22 1E914+22 1E915+22 1E916+22 1E917+22 1E918+22 1E919+22
  1E91A+22 1E91B+22 1E91C+22 1E91D+22 1E91E+22 1E91F+22 1E920+22 1E921+22"

end Flowline.Regex
