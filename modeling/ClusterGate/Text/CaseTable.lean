import ClusterGate.Text.RangeTable

/-!
# Letter case

The Unicode properties Uppercase and Lowercase, and the full upper-case
mapping, which may give more than one character.
-/

namespace ClusterGate.Text

/-- Code points with the property Uppercase. -/
def uppercaseTable : List TableEntry := readTable "
  41-5A C0-D6 D8-DE 100-136/2 139-147/2 14A-178/2 179-17D/2 181-182 184-186/2
  187-189/2 18A-18B 18E-191 193-194 196-198 19C-19D 19F-1A0 1A2-1A6/2 1A7-1A9/2
  1AC-1AE/2 1AF-1B1/2 1B2-1B3 1B5-1B7/2 1B8 1BC 1C4 1C7 1CA 1CD-1DB/2 1DE-1EE/2
  1F1 1F4-1F6/2 1F7-1F8 1FA-232/2 23A-23B 23D-23E 241-243/2 244-246 248-24E/2
  370-372/2 376 37F 386-388/2 389-38A 38C-38E/2 38F-391/2 392-3A1 3A3-3AB 3CF
  3D2-3D4 3D8-3EE/2 3F4 3F7-3F9/2 3FA 3FD-42F 460-480/2 48A-4C0/2 4C1-4CD/2
  4D0-52E/2 531-556 10A0-10C5 10C7 10CD 13A0-13F5 1C89 1C90-1CBA 1CBD-1CBF
  1E00-1E94/2 1E9E-1EFE/2 1F08-1F0F 1F18-1F1D 1F28-1F2F 1F38-1F3F 1F48-1F4D
  1F59-1F5F/2 1F68-1F6F 1FB8-1FBB 1FC8-1FCB 1FD8-1FDB 1FE8-1FEC 1FF8-1FFB 2102
  2107 210B-210D 2110-2112 2115 2119-211D 2124-212A/2 212B-212D 2130-2133
  213E-213F 2145 2160-216F 2183 24B6-24CF 2C00-2C2F 2C60-2C62/2 2C63-2C64
  2C67-2C6D/2 2C6E-2C70 2C72 2C75 2C7E-2C80 2C82-2CE2/2 2CEB-2CED/2 2CF2
  A640-A66C/2 A680-A69A/2 A722-A72E/2 A732-A76E/2 A779-A77D/2 A77E-A786/2
  A78B-A78D/2 A790-A792/2 A796-A7AA/2 A7AB-A7AE A7B0-A7B4 A7B6-A7C4/2 A7C5-A7C7
  A7C9-A7CB/2 A7CC-A7DC/2 A7F5 FF21-FF3A 10400-10427 104B0-104D3 10570-1057A
  1057C-1058A 1058C-10592 10594-10595 10C80-10CB2 10D50-10D65 118A0-118BF
  16E40-16E5F 16EA0-16EB8 1D400-1D419 1D434-1D44D 1D468-1D481 1D49C-1D49E/2
  1D49F 1D4A2 1D4A5-1D4A6 1D4A9-1D4AC 1D4AE-1D4B5 1D4D0-1D4E9 1D504-1D505
  1D507-1D50A 1D50D-1D514 1D516-1D51C 1D538-1D539 1D53B-1D53E 1D540-1D544 1D546
  1D54A-1D550 1D56C-1D585 1D5A0-1D5B9 1D5D4-1D5ED 1D608-1D621 1D63C-1D655
  1D670-1D689 1D6A8-1D6C0 1D6E2-1D6FA 1D71C-1D734 1D756-1D76E 1D790-1D7A8 1D7CA
  1E900-1E921 1F130-1F149 1F150-1F169 1F170-1F189"

/-- Code points with the property Lowercase. -/
def lowercaseTable : List TableEntry := readTable "
  61-7A AA B5 BA DF-F6 F8-FF 101-137/2 138-148/2 149-177/2 17A-17E/2 17F-180
  183-185/2 188 18C-18D 192 195 199-19B 19E 1A1-1A5/2 1A8-1AA/2 1AB-1AD/2 1B0
  1B4-1B6/2 1B9-1BA 1BD-1BF 1C6 1C9 1CC-1DC/2 1DD-1EF/2 1F0 1F3-1F5/2 1F9-233/2
  234-239 23C 23F-240 242 247-24F/2 250-293 296-2B8 2C0-2C1 2E0-2E4 345
  371-373/2 377 37A-37D 390 3AC-3CE 3D0-3D1 3D5-3D7 3D9-3EF/2 3F0-3F3 3F5 3F8
  3FB-3FC 430-45F 461-481/2 48B-4BF/2 4C2-4CE/2 4CF-52F/2 560-588 10D0-10FA
  10FC-10FF 13F8-13FD 1C80-1C88 1C8A 1D00-1DBF 1E01-1E95/2 1E96-1E9D 1E9F-1EFF/2
  1F00-1F07 1F10-1F15 1F20-1F27 1F30-1F37 1F40-1F45 1F50-1F57 1F60-1F67
  1F70-1F7D 1F80-1F87 1F90-1F97 1FA0-1FA7 1FB0-1FB4 1FB6-1FB7 1FBE 1FC2-1FC4
  1FC6-1FC7 1FD0-1FD3 1FD6-1FD7 1FE0-1FE7 1FF2-1FF4 1FF6-1FF7 2071 207F
  2090-209C 210A 210E-210F 2113 212F 2134 2139 213C-213D 2146-2149 214E
  2170-217F 2184 24D0-24E9 2C30-2C5F 2C61 2C65-2C66 2C68-2C6C/2 2C71-2C73/2
  2C74-2C76/2 2C77-2C7D 2C81-2CE3/2 2CE4 2CEC-2CEE/2 2CF3 2D00-2D25 2D27 2D2D
  A641-A66D/2 A681-A69B/2 A69C-A69D A723-A72F/2 A730-A731 A733-A76F/2 A770-A778
  A77A-A77C/2 A77F-A787/2 A78C-A78E/2 A791-A793/2 A794-A795 A797-A7A9/2 A7AF
  A7B5-A7C3/2 A7C8-A7CA/2 A7CD-A7DB/2 A7F1-A7F4 A7F6-A7F8/2 A7F9-A7FA AB30-AB5A
  AB5C-AB69 AB70-ABBF FB00-FB06 FB13-FB17 FF41-FF5A 10428-1044F 104D8-104FB
  10597-105A1 105A3-105B1 105B3-105B9 105BB-105BC 10780 10783-10785 10787-107B0
  107B2-107BA 10CC0-10CF2 10D70-10D85 118C0-118DF 16E60-16E7F 16EBB-16ED3
  1D41A-1D433 1D44E-1D454 1D456-1D467 1D482-1D49B 1D4B6-1D4B9 1D4BB-1D4BD/2
  1D4BE-1D4C3 1D4C5-1D4CF 1D4EA-1D503 1D51E-1D537 1D552-1D56B 1D586-1D59F
  1D5BA-1D5D3 1D5EE-1D607 1D622-1D63B 1D656-1D66F 1D68A-1D6A5 1D6C2-1D6DA
  1D6DC-1D6E1 1D6FC-1D714 1D716-1D71B 1D736-1D74E 1D750-1D755 1D770-1D788
  1D78A-1D78F 1D7AA-1D7C2 1D7C4-1D7C9 1D7CB 1DF00-1DF09 1DF0B-1DF1E 1DF25-1DF2A
  1E030-1E06D 1E922-1E943"

/-- Upper-case forms that differ from the character. -/
def toUpperTable : List TableEntry := readTable "
  61-7A:>41 B5:>39C DF:53,53 E0-F6:>C0 F8-FE:>D8 FF:>178 101-12F/2:>100 131:>49
  133-137/2:>132 13A-148/2:>139 149:2BC,4E 14B-177/2:>14A 17A-17E/2:>179 17F:>53
  180:>243 183-185/2:>182 188:>187 18C:>18B 192:>191 195:>1F6 199:>198 19A:>23D
  19B:>A7DC 19E:>220 1A1-1A5/2:>1A0 1A8:>1A7 1AD:>1AC 1B0:>1AF 1B4-1B6/2:>1B3
  1B9:>1B8 1BD:>1BC 1BF:>1F7 1C5:>1C4 1C6:>1C4 1C8:>1C7 1C9:>1C7 1CB:>1CA
  1CC:>1CA 1CE-1DC/2:>1CD 1DD:>18E 1DF-1EF/2:>1DE 1F0:4A,30C 1F2:>1F1 1F3:>1F1
  1F5:>1F4 1F9-21F/2:>1F8 223-233/2:>222 23C:>23B 23F-240:>2C7E 242:>241
  247-24F/2:>246 250:>2C6F 251:>2C6D 252:>2C70 253:>181 254:>186 256-257:>189
  259:>18F 25B:>190 25C:>A7AB 260:>193 261:>A7AC 263:>194 264:>A7CB 265:>A78D
  266:>A7AA 268:>197 269:>196 26A:>A7AE 26B:>2C62 26C:>A7AD 26F:>19C 271:>2C6E
  272:>19D 275:>19F 27D:>2C64 280:>1A6 282:>A7C5 283:>1A9 287:>A7B1 288:>1AE
  289:>244 28A-28B:>1B1 28C:>245 292:>1B7 29D:>A7B2 29E:>A7B0 345:>399
  371-373/2:>370 377:>376 37B-37D:>3FD 390:399,308,301 3AC:>386 3AD-3AF:>388
  3B0:3A5,308,301 3B1-3C1:>391 3C2:>3A3 3C3-3CB:>3A3 3CC:>38C 3CD-3CE:>38E
  3D0:>392 3D1:>398 3D5:>3A6 3D6:>3A0 3D7:>3CF 3D9-3EF/2:>3D8 3F0:>39A 3F1:>3A1
  3F2:>3F9 3F3:>37F 3F5:>395 3F8:>3F7 3FB:>3FA 430-44F:>410 450-45F:>400
  461-481/2:>460 48B-4BF/2:>48A 4C2-4CE/2:>4C1 4CF:>4C0 4D1-52F/2:>4D0
  561-586:>531 587:535,552 10D0-10FA:>1C90 10FD-10FF:>1CBD 13F8-13FD:>13F0
  1C80:>412 1C81:>414 1C82:>41E 1C83-1C84:>421 1C85:>422 1C86:>42A 1C87:>462
  1C88:>A64A 1C8A:>1C89 1D79:>A77D 1D7D:>2C63 1D8E:>A7C6 1E01-1E95/2:>1E00
  1E96:48,331 1E97:54,308 1E98:57,30A 1E99:59,30A 1E9A:41,2BE 1E9B:>1E60
  1EA1-1EFF/2:>1EA0 1F00-1F07:>1F08 1F10-1F15:>1F18 1F20-1F27:>1F28
  1F30-1F37:>1F38 1F40-1F45:>1F48 1F50:3A5,313 1F51:>1F59 1F52:3A5,313,300
  1F53:>1F5B 1F54:3A5,313,301 1F55:>1F5D 1F56:3A5,313,342 1F57:>1F5F
  1F60-1F67:>1F68 1F70-1F71:>1FBA 1F72-1F75:>1FC8 1F76-1F77:>1FDA
  1F78-1F79:>1FF8 1F7A-1F7B:>1FEA 1F7C-1F7D:>1FFA 1F80:1F08,399 1F81:1F09,399
  1F82:1F0A,399 1F83:1F0B,399 1F84:1F0C,399 1F85:1F0D,399 1F86:1F0E,399
  1F87:1F0F,399 1F88:1F08,399 1F89:1F09,399 1F8A:1F0A,399 1F8B:1F0B,399
  1F8C:1F0C,399 1F8D:1F0D,399 1F8E:1F0E,399 1F8F:1F0F,399 1F90:1F28,399
  1F91:1F29,399 1F92:1F2A,399 1F93:1F2B,399 1F94:1F2C,399 1F95:1F2D,399
  1F96:1F2E,399 1F97:1F2F,399 1F98:1F28,399 1F99:1F29,399 1F9A:1F2A,399
  1F9B:1F2B,399 1F9C:1F2C,399 1F9D:1F2D,399 1F9E:1F2E,399 1F9F:1F2F,399
  1FA0:1F68,399 1FA1:1F69,399 1FA2:1F6A,399 1FA3:1F6B,399 1FA4:1F6C,399
  1FA5:1F6D,399 1FA6:1F6E,399 1FA7:1F6F,399 1FA8:1F68,399 1FA9:1F69,399
  1FAA:1F6A,399 1FAB:1F6B,399 1FAC:1F6C,399 1FAD:1F6D,399 1FAE:1F6E,399
  1FAF:1F6F,399 1FB0-1FB1:>1FB8 1FB2:1FBA,399 1FB3:391,399 1FB4:386,399
  1FB6:391,342 1FB7:391,342,399 1FBC:391,399 1FBE:>399 1FC2:1FCA,399
  1FC3:397,399 1FC4:389,399 1FC6:397,342 1FC7:397,342,399 1FCC:397,399
  1FD0-1FD1:>1FD8 1FD2:399,308,300 1FD3:399,308,301 1FD6:399,342
  1FD7:399,308,342 1FE0-1FE1:>1FE8 1FE2:3A5,308,300 1FE3:3A5,308,301
  1FE4:3A1,313 1FE5:>1FEC 1FE6:3A5,342 1FE7:3A5,308,342 1FF2:1FFA,399
  1FF3:3A9,399 1FF4:38F,399 1FF6:3A9,342 1FF7:3A9,342,399 1FFC:3A9,399
  214E:>2132 2170-217F:>2160 2184:>2183 24D0-24E9:>24B6 2C30-2C5F:>2C00
  2C61:>2C60 2C65:>23A 2C66:>23E 2C68-2C6C/2:>2C67 2C73:>2C72 2C76:>2C75
  2C81-2CE3/2:>2C80 2CEC-2CEE/2:>2CEB 2CF3:>2CF2 2D00-2D25:>10A0 2D27:>10C7
  2D2D:>10CD A641-A66D/2:>A640 A681-A69B/2:>A680 A723-A72F/2:>A722
  A733-A76F/2:>A732 A77A-A77C/2:>A779 A77F-A787/2:>A77E A78C:>A78B
  A791-A793/2:>A790 A794:>A7C4 A797-A7A9/2:>A796 A7B5-A7C3/2:>A7B4
  A7C8-A7CA/2:>A7C7 A7CD-A7DB/2:>A7CC A7F6:>A7F5 AB53:>A7B3 AB70-ABBF:>13A0
  FB00:46,46 FB01:46,49 FB02:46,4C FB03:46,46,49 FB04:46,46,4C FB05:53,54
  FB06:53,54 FB13:544,546 FB14:544,535 FB15:544,53B FB16:54E,546 FB17:544,53D
  FF41-FF5A:>FF21 10428-1044F:>10400 104D8-104FB:>104B0 10597-105A1:>10570
  105A3-105B1:>1057C 105B3-105B9:>1058C 105BB-105BC:>10594 10CC0-10CF2:>10C80
  10D70-10D85:>10D50 118C0-118DF:>118A0 16E60-16E7F:>16E40 16EBB-16ED3:>16EA0
  1E922-1E943:>1E900"

end ClusterGate.Text
