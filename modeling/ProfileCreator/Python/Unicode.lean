import Mathlib.Algebra.Ring.Int.Defs
import Mathlib.Computability.Primrec
import Mathlib.Data.Nat.Digits

/-! # The Unicode character data CPython's string methods read

`str.isspace`, `str.isdigit`, `int()`, `float()`, `str.lower`, `str.upper` and `repr` consult the
Unicode character database CPython is built with. The tables below are that data as CPython 3.11
(Unicode 14.0) answers it for every code point:

* `whitespaceCodes` — the characters `str.isspace()` accepts (`Py_UNICODE_ISSPACE`);
* `decimalBlockStarts` — the first code point of every run of ten decimal digits (category Nd),
  which `int()` and `float()` read as the digits zero to nine;
* `otherDigitRanges` — the further characters `str.isdigit()` accepts (superscripts, circled and
  parenthesised digits), which `int()` rejects;
* `nonPrintableRanges` — the non-ASCII code points `repr` escapes (categories C and Z);
* `lowerRuns`, `upperRuns`, `lowerSpecial` and `upperSpecial` — the full case mappings of
  `str.lower()` and `str.upper()`;
* `casedRanges` and `caseIgnorableRanges` — the properties `str.lower()` reads around a capital
  sigma to choose its final form.

The long tables are written as lines of text, one hexadecimal entry per blank-separated item: a
code point or a range `first-last`; a run `first-last/step:delta`, which adds `delta` to every
`step`-th code point from `first` to `last`; a multi-character mapping `code:first,second,…`. Lean's `Char`
holds Unicode scalar values only, so the lone surrogates a Python string may hold are outside the
model.
-/

namespace ProfileCreator.Python

/-- The value of a hexadecimal numeral in upper-case digits. -/
def hexValue (digits : List Char) : Nat :=
  digits.foldl (fun value c => 16 * value + if c.isDigit then c.toNat - '0'.toNat else c.toNat - 'A'.toNat + 10) 0

/-- A range `first-last`, or a single code point. -/
def decodeRange (text : List Char) : Nat × Nat :=
  match text.splitOn '-' with
  | [first, last] => (hexValue first, hexValue last)
  | _ => (hexValue text, hexValue text)

/-- A signed hexadecimal offset `+delta` or `-delta`. -/
def decodeDelta : List Char → Int
  | '-' :: digits => -(hexValue digits : Int)
  | '+' :: digits => hexValue digits
  | digits => hexValue digits

/-- A run `first-last/step:delta`; the step is one when it is not written. -/
def decodeRun (text : List Char) : Nat × Nat × Nat × Int :=
  match text.splitOn ':' with
  | [span, delta] =>
    match span.splitOn '/' with
    | [range, step] => ((decodeRange range).1, (decodeRange range).2, hexValue step, decodeDelta delta)
    | _ => ((decodeRange span).1, (decodeRange span).2, 1, decodeDelta delta)
  | _ => (0, 0, 1, 0)

/-- A mapping `code:first,second,…` to several code points. -/
def decodeMapping (text : List Char) : Nat × List Nat :=
  match text.splitOn ':' with
  | [code, codes] => (hexValue code, (codes.splitOn ',').map hexValue)
  | _ => (hexValue text, [])

/-- The blank-separated items of a table's lines. -/
def tableItems (lines : List String) : List (List Char) := lines.flatMap fun line => line.toList.splitOn ' '

/-- A table of ranges written as text. -/
def decodeRanges (lines : List String) : List (Nat × Nat) := (tableItems lines).map decodeRange

/-- A table of runs written as text. -/
def decodeRuns (lines : List String) : List (Nat × Nat × Nat × Int) := (tableItems lines).map decodeRun

/-- A table of multi-character mappings written as text. -/
def decodeSpecial (lines : List String) : List (Nat × List Nat) := (tableItems lines).map decodeMapping

/-- The code point lies in one of the closed ranges. -/
def inRanges (ranges : List (Nat × Nat)) (code : Nat) : Bool :=
  ranges.any fun (first, last) => first ≤ code && code ≤ last

/-- The code point one of the runs maps `code` to. -/
def runMapping (runs : List (Nat × Nat × Nat × Int)) (code : Nat) : Option Nat :=
  runs.findSome? fun (first, last, step, delta) =>
    if first ≤ code ∧ code ≤ last ∧ (code - first) % step = 0 then some (code + delta).toNat else none

/-! ## The tables -/

/-- The code points of `str.isspace()`. -/
def whitespaceCodes : List Nat :=
  [0x9, 0xA, 0xB, 0xC, 0xD, 0x1C, 0x1D, 0x1E, 0x1F, 0x20,
   0x85, 0xA0, 0x1680, 0x2000, 0x2001, 0x2002, 0x2003, 0x2004, 0x2005, 0x2006,
   0x2007, 0x2008, 0x2009, 0x200A, 0x2028, 0x2029, 0x202F, 0x205F, 0x3000]

/-- The first code point of each run of ten decimal digits. -/
def decimalBlockStarts : List Nat :=
  [0x30, 0x660, 0x6F0, 0x7C0, 0x966, 0x9E6, 0xA66, 0xAE6, 0xB66, 0xBE6,
   0xC66, 0xCE6, 0xD66, 0xDE6, 0xE50, 0xED0, 0xF20, 0x1040, 0x1090, 0x17E0,
   0x1810, 0x1946, 0x19D0, 0x1A80, 0x1A90, 0x1B50, 0x1BB0, 0x1C40, 0x1C50, 0xA620,
   0xA8D0, 0xA900, 0xA9D0, 0xA9F0, 0xAA50, 0xABF0, 0xFF10, 0x104A0, 0x10D30, 0x11066,
   0x110F0, 0x11136, 0x111D0, 0x112F0, 0x11450, 0x114D0, 0x11650, 0x116C0, 0x11730, 0x118E0,
   0x11950, 0x11C50, 0x11D50, 0x11DA0, 0x16A60, 0x16AC0, 0x16B50, 0x1D7CE, 0x1D7D8, 0x1D7E2,
   0x1D7EC, 0x1D7F6, 0x1E140, 0x1E2F0, 0x1E950, 0x1FBF0]

/-- The digits that are not decimal digits. -/
def otherDigitRanges : List (Nat × Nat) :=
  [(0xB2, 0xB3), (0xB9, 0xB9), (0x1369, 0x1371), (0x19DA, 0x19DA), (0x2070, 0x2070), (0x2074, 0x2079),
   (0x2080, 0x2089), (0x2460, 0x2468), (0x2474, 0x247C), (0x2488, 0x2490), (0x24EA, 0x24EA), (0x24F5, 0x24FD),
   (0x24FF, 0x24FF), (0x2776, 0x277E), (0x2780, 0x2788), (0x278A, 0x2792), (0x10A40, 0x10A43), (0x10E60, 0x10E68),
   (0x11052, 0x1105A), (0x1F100, 0x1F10A)]

/-- The non-ASCII code points that are not printable. -/
def nonPrintableRanges : List (Nat × Nat) := decodeRanges
  ["80-A0 AD 378-379 380-383 38B 38D 3A2 530 557-558 58B-58C 590 5C8-5CF 5EB-5EE 5F5-605 61C 6DD",
   "70E-70F 74B-74C 7B2-7BF 7FB-7FC 82E-82F 83F 85C-85D 85F 86B-86F 88F-897 8E2 984 98D-98E 991-992",
   "9A9 9B1 9B3-9B5 9BA-9BB 9C5-9C6 9C9-9CA 9CF-9D6 9D8-9DB 9DE 9E4-9E5 9FF-A00 A04 A0B-A0E A11-A12",
   "A29 A31 A34 A37 A3A-A3B A3D A43-A46 A49-A4A A4E-A50 A52-A58 A5D A5F-A65 A77-A80 A84 A8E A92 AA9",
   "AB1 AB4 ABA-ABB AC6 ACA ACE-ACF AD1-ADF AE4-AE5 AF2-AF8 B00 B04 B0D-B0E B11-B12 B29 B31 B34",
   "B3A-B3B B45-B46 B49-B4A B4E-B54 B58-B5B B5E B64-B65 B78-B81 B84 B8B-B8D B91 B96-B98 B9B B9D",
   "BA0-BA2 BA5-BA7 BAB-BAD BBA-BBD BC3-BC5 BC9 BCE-BCF BD1-BD6 BD8-BE5 BFB-BFF C0D C11 C29 C3A-C3B",
   "C45 C49 C4E-C54 C57 C5B-C5C C5E-C5F C64-C65 C70-C76 C8D C91 CA9 CB4 CBA-CBB CC5 CC9 CCE-CD4",
   "CD7-CDC CDF CE4-CE5 CF0 CF3-CFF D0D D11 D45 D49 D50-D53 D64-D65 D80 D84 D97-D99 DB2 DBC DBE-DBF",
   "DC7-DC9 DCB-DCE DD5 DD7 DE0-DE5 DF0-DF1 DF5-E00 E3B-E3E E5C-E80 E83 E85 E8B EA4 EA6 EBE-EBF EC5",
   "EC7 ECE-ECF EDA-EDB EE0-EFF F48 F6D-F70 F98 FBD FCD FDB-FFF 10C6 10C8-10CC 10CE-10CF 1249",
   "124E-124F 1257 1259 125E-125F 1289 128E-128F 12B1 12B6-12B7 12BF 12C1 12C6-12C7 12D7 1311",
   "1316-1317 135B-135C 137D-137F 139A-139F 13F6-13F7 13FE-13FF 1680 169D-169F 16F9-16FF 1716-171E",
   "1737-173F 1754-175F 176D 1771 1774-177F 17DE-17DF 17EA-17EF 17FA-17FF 180E 181A-181F 1879-187F",
   "18AB-18AF 18F6-18FF 191F 192C-192F 193C-193F 1941-1943 196E-196F 1975-197F 19AC-19AF 19CA-19CF",
   "19DB-19DD 1A1C-1A1D 1A5F 1A7D-1A7E 1A8A-1A8F 1A9A-1A9F 1AAE-1AAF 1ACF-1AFF 1B4D-1B4F 1B7F",
   "1BF4-1BFB 1C38-1C3A 1C4A-1C4C 1C89-1C8F 1CBB-1CBC 1CC8-1CCF 1CFB-1CFF 1F16-1F17 1F1E-1F1F",
   "1F46-1F47 1F4E-1F4F 1F58 1F5A 1F5C 1F5E 1F7E-1F7F 1FB5 1FC5 1FD4-1FD5 1FDC 1FF0-1FF1 1FF5",
   "1FFF-200F 2028-202F 205F-206F 2072-2073 208F 209D-209F 20C1-20CF 20F1-20FF 218C-218F 2427-243F",
   "244B-245F 2B74-2B75 2B96 2CF4-2CF8 2D26 2D28-2D2C 2D2E-2D2F 2D68-2D6E 2D71-2D7E 2D97-2D9F 2DA7",
   "2DAF 2DB7 2DBF 2DC7 2DCF 2DD7 2DDF 2E5E-2E7F 2E9A 2EF4-2EFF 2FD6-2FEF 2FFC-3000 3040 3097-3098",
   "3100-3104 3130 318F 31E4-31EF 321F A48D-A48F A4C7-A4CF A62C-A63F A6F8-A6FF A7CB-A7CF A7D2 A7D4",
   "A7DA-A7F1 A82D-A82F A83A-A83F A878-A87F A8C6-A8CD A8DA-A8DF A954-A95E A97D-A97F A9CE A9DA-A9DD",
   "A9FF AA37-AA3F AA4E-AA4F AA5A-AA5B AAC3-AADA AAF7-AB00 AB07-AB08 AB0F-AB10 AB17-AB1F AB27 AB2F",
   "AB6C-AB6F ABEE-ABEF ABFA-ABFF D7A4-D7AF D7C7-D7CA D7FC-F8FF FA6E-FA6F FADA-FAFF FB07-FB12",
   "FB18-FB1C FB37 FB3D FB3F FB42 FB45 FBC3-FBD2 FD90-FD91 FDC8-FDCE FDD0-FDEF FE1A-FE1F FE53 FE67",
   "FE6C-FE6F FE75 FEFD-FF00 FFBF-FFC1 FFC8-FFC9 FFD0-FFD1 FFD8-FFD9 FFDD-FFDF FFE7 FFEF-FFFB",
   "FFFE-FFFF 1000C 10027 1003B 1003E 1004E-1004F 1005E-1007F 100FB-100FF 10103-10106 10134-10136",
   "1018F 1019D-1019F 101A1-101CF 101FE-1027F 1029D-1029F 102D1-102DF 102FC-102FF 10324-1032C",
   "1034B-1034F 1037B-1037F 1039E 103C4-103C7 103D6-103FF 1049E-1049F 104AA-104AF 104D4-104D7",
   "104FC-104FF 10528-1052F 10564-1056E 1057B 1058B 10593 10596 105A2 105B2 105BA 105BD-105FF",
   "10737-1073F 10756-1075F 10768-1077F 10786 107B1 107BB-107FF 10806-10807 10809 10836 10839-1083B",
   "1083D-1083E 10856 1089F-108A6 108B0-108DF 108F3 108F6-108FA 1091C-1091E 1093A-1093E 10940-1097F",
   "109B8-109BB 109D0-109D1 10A04 10A07-10A0B 10A14 10A18 10A36-10A37 10A3B-10A3E 10A49-10A4F",
   "10A59-10A5F 10AA0-10ABF 10AE7-10AEA 10AF7-10AFF 10B36-10B38 10B56-10B57 10B73-10B77 10B92-10B98",
   "10B9D-10BA8 10BB0-10BFF 10C49-10C7F 10CB3-10CBF 10CF3-10CF9 10D28-10D2F 10D3A-10E5F 10E7F 10EAA",
   "10EAE-10EAF 10EB2-10EFF 10F28-10F2F 10F5A-10F6F 10F8A-10FAF 10FCC-10FDF 10FF7-10FFF 1104E-11051",
   "11076-1107E 110BD 110C3-110CF 110E9-110EF 110FA-110FF 11135 11148-1114F 11177-1117F 111E0",
   "111F5-111FF 11212 1123F-1127F 11287 11289 1128E 1129E 112AA-112AF 112EB-112EF 112FA-112FF 11304",
   "1130D-1130E 11311-11312 11329 11331 11334 1133A 11345-11346 11349-1134A 1134E-1134F 11351-11356",
   "11358-1135C 11364-11365 1136D-1136F 11375-113FF 1145C 11462-1147F 114C8-114CF 114DA-1157F",
   "115B6-115B7 115DE-115FF 11645-1164F 1165A-1165F 1166D-1167F 116BA-116BF 116CA-116FF 1171B-1171C",
   "1172C-1172F 11747-117FF 1183C-1189F 118F3-118FE 11907-11908 1190A-1190B 11914 11917 11936",
   "11939-1193A 11947-1194F 1195A-1199F 119A8-119A9 119D8-119D9 119E5-119FF 11A48-11A4F 11AA3-11AAF",
   "11AF9-11BFF 11C09 11C37 11C46-11C4F 11C6D-11C6F 11C90-11C91 11CA8 11CB7-11CFF 11D07 11D0A",
   "11D37-11D39 11D3B 11D3E 11D48-11D4F 11D5A-11D5F 11D66 11D69 11D8F 11D92 11D99-11D9F 11DAA-11EDF",
   "11EF9-11FAF 11FB1-11FBF 11FF2-11FFE 1239A-123FF 1246F 12475-1247F 12544-12F8F 12FF3-12FFF",
   "1342F-143FF 14647-167FF 16A39-16A3F 16A5F 16A6A-16A6D 16ABF 16ACA-16ACF 16AEE-16AEF 16AF6-16AFF",
   "16B46-16B4F 16B5A 16B62 16B78-16B7C 16B90-16E3F 16E9B-16EFF 16F4B-16F4E 16F88-16F8E 16FA0-16FDF",
   "16FE5-16FEF 16FF2-16FFF 187F8-187FF 18CD6-18CFF 18D09-1AFEF 1AFF4 1AFFC 1AFFF 1B123-1B14F",
   "1B153-1B163 1B168-1B16F 1B2FC-1BBFF 1BC6B-1BC6F 1BC7D-1BC7F 1BC89-1BC8F 1BC9A-1BC9B 1BCA0-1CEFF",
   "1CF2E-1CF2F 1CF47-1CF4F 1CFC4-1CFFF 1D0F6-1D0FF 1D127-1D128 1D173-1D17A 1D1EB-1D1FF 1D246-1D2DF",
   "1D2F4-1D2FF 1D357-1D35F 1D379-1D3FF 1D455 1D49D 1D4A0-1D4A1 1D4A3-1D4A4 1D4A7-1D4A8 1D4AD 1D4BA",
   "1D4BC 1D4C4 1D506 1D50B-1D50C 1D515 1D51D 1D53A 1D53F 1D545 1D547-1D549 1D551 1D6A6-1D6A7",
   "1D7CC-1D7CD 1DA8C-1DA9A 1DAA0 1DAB0-1DEFF 1DF1F-1DFFF 1E007 1E019-1E01A 1E022 1E025 1E02B-1E0FF",
   "1E12D-1E12F 1E13E-1E13F 1E14A-1E14D 1E150-1E28F 1E2AF-1E2BF 1E2FA-1E2FE 1E300-1E7DF 1E7E7 1E7EC",
   "1E7EF 1E7FF 1E8C5-1E8C6 1E8D7-1E8FF 1E94C-1E94F 1E95A-1E95D 1E960-1EC70 1ECB5-1ED00 1ED3E-1EDFF",
   "1EE04 1EE20 1EE23 1EE25-1EE26 1EE28 1EE33 1EE38 1EE3A 1EE3C-1EE41 1EE43-1EE46 1EE48 1EE4A 1EE4C",
   "1EE50 1EE53 1EE55-1EE56 1EE58 1EE5A 1EE5C 1EE5E 1EE60 1EE63 1EE65-1EE66 1EE6B 1EE73 1EE78 1EE7D",
   "1EE7F 1EE8A 1EE9C-1EEA0 1EEA4 1EEAA 1EEBC-1EEEF 1EEF2-1EFFF 1F02C-1F02F 1F094-1F09F 1F0AF-1F0B0",
   "1F0C0 1F0D0 1F0F6-1F0FF 1F1AE-1F1E5 1F203-1F20F 1F23C-1F23F 1F249-1F24F 1F252-1F25F 1F266-1F2FF",
   "1F6D8-1F6DC 1F6ED-1F6EF 1F6FD-1F6FF 1F774-1F77F 1F7D9-1F7DF 1F7EC-1F7EF 1F7F1-1F7FF 1F80C-1F80F",
   "1F848-1F84F 1F85A-1F85F 1F888-1F88F 1F8AE-1F8AF 1F8B2-1F8FF 1FA54-1FA5F 1FA6E-1FA6F 1FA75-1FA77",
   "1FA7D-1FA7F 1FA87-1FA8F 1FAAD-1FAAF 1FABB-1FABF 1FAC6-1FACF 1FADA-1FADF 1FAE8-1FAEF 1FAF7-1FAFF",
   "1FB93 1FBCB-1FBEF 1FBFA-1FFFF 2A6E0-2A6FF 2B739-2B73F 2B81E-2B81F 2CEA2-2CEAF 2EBE1-2F7FF",
   "2FA1E-2FFFF 3134B-E00FF E01F0-10FFFF"]

/-- The one-character lower-case mappings, capital sigma apart. -/
def lowerRuns : List (Nat × Nat × Nat × Int) := decodeRuns
  ["41-5A:+20 C0-D6:+20 D8-DE:+20 100-12E/2:+1 132-136/2:+1 139-147/2:+1 14A-176/2:+1 178:-79",
   "179-17D/2:+1 181:+D2 182-184/2:+1 186:+CE 187:+1 189-18A:+CD 18B:+1 18E:+4F 18F:+CA 190:+CB",
   "191:+1 193:+CD 194:+CF 196:+D3 197:+D1 198:+1 19C:+D3 19D:+D5 19F:+D6 1A0-1A4/2:+1 1A6:+DA",
   "1A7:+1 1A9:+DA 1AC:+1 1AE:+DA 1AF:+1 1B1-1B2:+D9 1B3-1B5/2:+1 1B7:+DB 1B8:+1 1BC:+1 1C4:+2",
   "1C5:+1 1C7:+2 1C8:+1 1CA:+2 1CB-1DB/2:+1 1DE-1EE/2:+1 1F1:+2 1F2-1F4/2:+1 1F6:-61 1F7:-38",
   "1F8-21E/2:+1 220:-82 222-232/2:+1 23A:+2A2B 23B:+1 23D:-A3 23E:+2A28 241:+1 243:-C3 244:+45",
   "245:+47 246-24E/2:+1 370-372/2:+1 376:+1 37F:+74 386:+26 388-38A:+25 38C:+40 38E-38F:+3F",
   "391-3A1:+20 3A4-3AB:+20 3CF:+8 3D8-3EE/2:+1 3F4:-3C 3F7:+1 3F9:-7 3FA:+1 3FD-3FF:-82 400-40F:+50",
   "410-42F:+20 460-480/2:+1 48A-4BE/2:+1 4C0:+F 4C1-4CD/2:+1 4D0-52E/2:+1 531-556:+30",
   "10A0-10C5:+1C60 10C7:+1C60 10CD:+1C60 13A0-13EF:+97D0 13F0-13F5:+8 1C90-1CBA:-BC0 1CBD-1CBF:-BC0",
   "1E00-1E94/2:+1 1E9E:-1DBF 1EA0-1EFE/2:+1 1F08-1F0F:-8 1F18-1F1D:-8 1F28-1F2F:-8 1F38-1F3F:-8",
   "1F48-1F4D:-8 1F59-1F5F/2:-8 1F68-1F6F:-8 1F88-1F8F:-8 1F98-1F9F:-8 1FA8-1FAF:-8 1FB8-1FB9:-8",
   "1FBA-1FBB:-4A 1FBC:-9 1FC8-1FCB:-56 1FCC:-9 1FD8-1FD9:-8 1FDA-1FDB:-64 1FE8-1FE9:-8",
   "1FEA-1FEB:-70 1FEC:-7 1FF8-1FF9:-80 1FFA-1FFB:-7E 1FFC:-9 2126:-1D5D 212A:-20BF 212B:-2046",
   "2132:+1C 2160-216F:+10 2183:+1 24B6-24CF:+1A 2C00-2C2F:+30 2C60:+1 2C62:-29F7 2C63:-EE6",
   "2C64:-29E7 2C67-2C6B/2:+1 2C6D:-2A1C 2C6E:-29FD 2C6F:-2A1F 2C70:-2A1E 2C72:+1 2C75:+1",
   "2C7E-2C7F:-2A3F 2C80-2CE2/2:+1 2CEB-2CED/2:+1 2CF2:+1 A640-A66C/2:+1 A680-A69A/2:+1",
   "A722-A72E/2:+1 A732-A76E/2:+1 A779-A77B/2:+1 A77D:-8A04 A77E-A786/2:+1 A78B:+1 A78D:-A528",
   "A790-A792/2:+1 A796-A7A8/2:+1 A7AA:-A544 A7AB:-A54F A7AC:-A54B A7AD:-A541 A7AE:-A544 A7B0:-A512",
   "A7B1:-A52A A7B2:-A515 A7B3:+3A0 A7B4-A7C2/2:+1 A7C4:-30 A7C5:-A543 A7C6:-8A38 A7C7-A7C9/2:+1",
   "A7D0:+1 A7D6-A7D8/2:+1 A7F5:+1 FF21-FF3A:+20 10400-10427:+28 104B0-104D3:+28 10570-1057A:+27",
   "1057C-1058A:+27 1058C-10592:+27 10594-10595:+27 10C80-10CB2:+40 118A0-118BF:+20 16E40-16E5F:+20",
   "1E900-1E921:+22"]

/-- The lower-case mappings to several characters. -/
def lowerSpecial : List (Nat × List Nat) := decodeSpecial
  ["130:69,307"]

/-- The one-character upper-case mappings. -/
def upperRuns : List (Nat × Nat × Nat × Int) := decodeRuns
  ["61-7A:-20 B5:+2E7 E0-F6:-20 F8-FE:-20 FF:+79 101-12F/2:-1 131:-E8 133-137/2:-1 13A-148/2:-1",
   "14B-177/2:-1 17A-17E/2:-1 17F:-12C 180:+C3 183-185/2:-1 188:-1 18C:-1 192:-1 195:+61 199:-1",
   "19A:+A3 19E:+82 1A1-1A5/2:-1 1A8:-1 1AD:-1 1B0:-1 1B4-1B6/2:-1 1B9:-1 1BD:-1 1BF:+38 1C5:-1",
   "1C6:-2 1C8:-1 1C9:-2 1CB:-1 1CC:-2 1CE-1DC/2:-1 1DD:-4F 1DF-1EF/2:-1 1F2:-1 1F3:-2 1F5:-1",
   "1F9-21F/2:-1 223-233/2:-1 23C:-1 23F-240:+2A3F 242:-1 247-24F/2:-1 250:+2A1F 251:+2A1C 252:+2A1E",
   "253:-D2 254:-CE 256-257:-CD 259:-CA 25B:-CB 25C:+A54F 260:-CD 261:+A54B 263:-CF 265:+A528",
   "266:+A544 268:-D1 269:-D3 26A:+A544 26B:+29F7 26C:+A541 26F:-D3 271:+29FD 272:-D5 275:-D6",
   "27D:+29E7 280:-DA 282:+A543 283:-DA 287:+A52A 288:-DA 289:-45 28A-28B:-D9 28C:-47 292:-DB",
   "29D:+A515 29E:+A512 345:+54 371-373/2:-1 377:-1 37B-37D:+82 3AC:-26 3AD-3AF:-25 3B1-3C1:-20",
   "3C2:-1F 3C3-3CB:-20 3CC:-40 3CD-3CE:-3F 3D0:-3E 3D1:-39 3D5:-2F 3D6:-36 3D7:-8 3D9-3EF/2:-1",
   "3F0:-56 3F1:-50 3F2:+7 3F3:-74 3F5:-60 3F8:-1 3FB:-1 430-44F:-20 450-45F:-50 461-481/2:-1",
   "48B-4BF/2:-1 4C2-4CE/2:-1 4CF:-F 4D1-52F/2:-1 561-586:-30 10D0-10FA:+BC0 10FD-10FF:+BC0",
   "13F8-13FD:-8 1C80:-186E 1C81:-186D 1C82:-1864 1C83-1C84:-1862 1C85:-1863 1C86:-185C 1C87:-1825",
   "1C88:+89C2 1D79:+8A04 1D7D:+EE6 1D8E:+8A38 1E01-1E95/2:-1 1E9B:-3B 1EA1-1EFF/2:-1 1F00-1F07:+8",
   "1F10-1F15:+8 1F20-1F27:+8 1F30-1F37:+8 1F40-1F45:+8 1F51-1F57/2:+8 1F60-1F67:+8 1F70-1F71:+4A",
   "1F72-1F75:+56 1F76-1F77:+64 1F78-1F79:+80 1F7A-1F7B:+70 1F7C-1F7D:+7E 1FB0-1FB1:+8 1FBE:-1C25",
   "1FD0-1FD1:+8 1FE0-1FE1:+8 1FE5:+7 214E:-1C 2170-217F:-10 2184:-1 24D0-24E9:-1A 2C30-2C5F:-30",
   "2C61:-1 2C65:-2A2B 2C66:-2A28 2C68-2C6C/2:-1 2C73:-1 2C76:-1 2C81-2CE3/2:-1 2CEC-2CEE/2:-1",
   "2CF3:-1 2D00-2D25:-1C60 2D27:-1C60 2D2D:-1C60 A641-A66D/2:-1 A681-A69B/2:-1 A723-A72F/2:-1",
   "A733-A76F/2:-1 A77A-A77C/2:-1 A77F-A787/2:-1 A78C:-1 A791-A793/2:-1 A794:+30 A797-A7A9/2:-1",
   "A7B5-A7C3/2:-1 A7C8-A7CA/2:-1 A7D1:-1 A7D7-A7D9/2:-1 A7F6:-1 AB53:-3A0 AB70-ABBF:-97D0",
   "FF41-FF5A:-20 10428-1044F:-28 104D8-104FB:-28 10597-105A1:-27 105A3-105B1:-27 105B3-105B9:-27",
   "105BB-105BC:-27 10CC0-10CF2:-40 118C0-118DF:-20 16E60-16E7F:-20 1E922-1E943:-22"]

/-- The upper-case mappings to several characters. -/
def upperSpecial : List (Nat × List Nat) := decodeSpecial
  ["DF:53,53 149:2BC,4E 1F0:4A,30C 390:399,308,301 3B0:3A5,308,301 587:535,552 1E96:48,331",
   "1E97:54,308 1E98:57,30A 1E99:59,30A 1E9A:41,2BE 1F50:3A5,313 1F52:3A5,313,300 1F54:3A5,313,301",
   "1F56:3A5,313,342 1F80:1F08,399 1F81:1F09,399 1F82:1F0A,399 1F83:1F0B,399 1F84:1F0C,399",
   "1F85:1F0D,399 1F86:1F0E,399 1F87:1F0F,399 1F88:1F08,399 1F89:1F09,399 1F8A:1F0A,399",
   "1F8B:1F0B,399 1F8C:1F0C,399 1F8D:1F0D,399 1F8E:1F0E,399 1F8F:1F0F,399 1F90:1F28,399",
   "1F91:1F29,399 1F92:1F2A,399 1F93:1F2B,399 1F94:1F2C,399 1F95:1F2D,399 1F96:1F2E,399",
   "1F97:1F2F,399 1F98:1F28,399 1F99:1F29,399 1F9A:1F2A,399 1F9B:1F2B,399 1F9C:1F2C,399",
   "1F9D:1F2D,399 1F9E:1F2E,399 1F9F:1F2F,399 1FA0:1F68,399 1FA1:1F69,399 1FA2:1F6A,399",
   "1FA3:1F6B,399 1FA4:1F6C,399 1FA5:1F6D,399 1FA6:1F6E,399 1FA7:1F6F,399 1FA8:1F68,399",
   "1FA9:1F69,399 1FAA:1F6A,399 1FAB:1F6B,399 1FAC:1F6C,399 1FAD:1F6D,399 1FAE:1F6E,399",
   "1FAF:1F6F,399 1FB2:1FBA,399 1FB3:391,399 1FB4:386,399 1FB6:391,342 1FB7:391,342,399 1FBC:391,399",
   "1FC2:1FCA,399 1FC3:397,399 1FC4:389,399 1FC6:397,342 1FC7:397,342,399 1FCC:397,399",
   "1FD2:399,308,300 1FD3:399,308,301 1FD6:399,342 1FD7:399,308,342 1FE2:3A5,308,300",
   "1FE3:3A5,308,301 1FE4:3A1,313 1FE6:3A5,342 1FE7:3A5,308,342 1FF2:1FFA,399 1FF3:3A9,399",
   "1FF4:38F,399 1FF6:3A9,342 1FF7:3A9,342,399 1FFC:3A9,399 FB00:46,46 FB01:46,49 FB02:46,4C",
   "FB03:46,46,49 FB04:46,46,4C FB05:53,54 FB06:53,54 FB13:544,546 FB14:544,535 FB15:544,53B",
   "FB16:54E,546 FB17:544,53D"]

/-- The cased characters that are not case-ignorable. -/
def casedRanges : List (Nat × Nat) := decodeRanges
  ["41-5A 61-7A AA B5 BA C0-D6 D8-F6 F8-1BA 1BC-1BF 1C4-293 295-2AF 370-373 376-377 37B-37D 37F 386",
   "388-38A 38C 38E-3A1 3A3-3F5 3F7-481 48A-52F 531-556 560-588 10A0-10C5 10C7 10CD 10D0-10FA",
   "10FD-10FF 13A0-13F5 13F8-13FD 1C80-1C88 1C90-1CBA 1CBD-1CBF 1D00-1D2B 1D6B-1D77 1D79-1D9A",
   "1E00-1F15 1F18-1F1D 1F20-1F45 1F48-1F4D 1F50-1F57 1F59 1F5B 1F5D 1F5F-1F7D 1F80-1FB4 1FB6-1FBC",
   "1FBE 1FC2-1FC4 1FC6-1FCC 1FD0-1FD3 1FD6-1FDB 1FE0-1FEC 1FF2-1FF4 1FF6-1FFC 2102 2107 210A-2113",
   "2115 2119-211D 2124 2126 2128 212A-212D 212F-2134 2139 213C-213F 2145-2149 214E 2160-217F",
   "2183-2184 24B6-24E9 2C00-2C7B 2C7E-2CE4 2CEB-2CEE 2CF2-2CF3 2D00-2D25 2D27 2D2D A640-A66D",
   "A680-A69B A722-A76F A771-A787 A78B-A78E A790-A7CA A7D0-A7D1 A7D3 A7D5-A7D9 A7F5-A7F6 A7FA",
   "AB30-AB5A AB60-AB68 AB70-ABBF FB00-FB06 FB13-FB17 FF21-FF3A FF41-FF5A 10400-1044F 104B0-104D3",
   "104D8-104FB 10570-1057A 1057C-1058A 1058C-10592 10594-10595 10597-105A1 105A3-105B1 105B3-105B9",
   "105BB-105BC 10C80-10CB2 10CC0-10CF2 118A0-118DF 16E40-16E7F 1D400-1D454 1D456-1D49C 1D49E-1D49F",
   "1D4A2 1D4A5-1D4A6 1D4A9-1D4AC 1D4AE-1D4B9 1D4BB 1D4BD-1D4C3 1D4C5-1D505 1D507-1D50A 1D50D-1D514",
   "1D516-1D51C 1D51E-1D539 1D53B-1D53E 1D540-1D544 1D546 1D54A-1D550 1D552-1D6A5 1D6A8-1D6C0",
   "1D6C2-1D6DA 1D6DC-1D6FA 1D6FC-1D714 1D716-1D734 1D736-1D74E 1D750-1D76E 1D770-1D788 1D78A-1D7A8",
   "1D7AA-1D7C2 1D7C4-1D7CB 1DF00-1DF09 1DF0B-1DF1E 1E900-1E943 1F130-1F149 1F150-1F169 1F170-1F189"]

/-- The case-ignorable characters. -/
def caseIgnorableRanges : List (Nat × Nat) := decodeRanges
  ["27 2E 3A 5E 60 A8 AD AF B4 B7-B8 2B0-36F 374-375 37A 384-385 387 483-489 559 55F 591-5BD 5BF",
   "5C1-5C2 5C4-5C5 5C7 5F4 600-605 610-61A 61C 640 64B-65F 670 6D6-6DD 6DF-6E8 6EA-6ED 70F 711",
   "730-74A 7A6-7B0 7EB-7F5 7FA 7FD 816-82D 859-85B 888 890-891 898-89F 8C9-902 93A 93C 941-948 94D",
   "951-957 962-963 971 981 9BC 9C1-9C4 9CD 9E2-9E3 9FE A01-A02 A3C A41-A42 A47-A48 A4B-A4D A51",
   "A70-A71 A75 A81-A82 ABC AC1-AC5 AC7-AC8 ACD AE2-AE3 AFA-AFF B01 B3C B3F B41-B44 B4D B55-B56",
   "B62-B63 B82 BC0 BCD C00 C04 C3C C3E-C40 C46-C48 C4A-C4D C55-C56 C62-C63 C81 CBC CBF CC6 CCC-CCD",
   "CE2-CE3 D00-D01 D3B-D3C D41-D44 D4D D62-D63 D81 DCA DD2-DD4 DD6 E31 E34-E3A E46-E4E EB1 EB4-EBC",
   "EC6 EC8-ECD F18-F19 F35 F37 F39 F71-F7E F80-F84 F86-F87 F8D-F97 F99-FBC FC6 102D-1030 1032-1037",
   "1039-103A 103D-103E 1058-1059 105E-1060 1071-1074 1082 1085-1086 108D 109D 10FC 135D-135F",
   "1712-1714 1732-1733 1752-1753 1772-1773 17B4-17B5 17B7-17BD 17C6 17C9-17D3 17D7 17DD 180B-180F",
   "1843 1885-1886 18A9 1920-1922 1927-1928 1932 1939-193B 1A17-1A18 1A1B 1A56 1A58-1A5E 1A60 1A62",
   "1A65-1A6C 1A73-1A7C 1A7F 1AA7 1AB0-1ACE 1B00-1B03 1B34 1B36-1B3A 1B3C 1B42 1B6B-1B73 1B80-1B81",
   "1BA2-1BA5 1BA8-1BA9 1BAB-1BAD 1BE6 1BE8-1BE9 1BED 1BEF-1BF1 1C2C-1C33 1C36-1C37 1C78-1C7D",
   "1CD0-1CD2 1CD4-1CE0 1CE2-1CE8 1CED 1CF4 1CF8-1CF9 1D2C-1D6A 1D78 1D9B-1DFF 1FBD 1FBF-1FC1",
   "1FCD-1FCF 1FDD-1FDF 1FED-1FEF 1FFD-1FFE 200B-200F 2018-2019 2024 2027 202A-202E 2060-2064",
   "2066-206F 2071 207F 2090-209C 20D0-20F0 2C7C-2C7D 2CEF-2CF1 2D6F 2D7F 2DE0-2DFF 2E2F 3005",
   "302A-302D 3031-3035 303B 3099-309E 30FC-30FE A015 A4F8-A4FD A60C A66F-A672 A674-A67D A67F",
   "A69C-A69F A6F0-A6F1 A700-A721 A770 A788-A78A A7F2-A7F4 A7F8-A7F9 A802 A806 A80B A825-A826 A82C",
   "A8C4-A8C5 A8E0-A8F1 A8FF A926-A92D A947-A951 A980-A982 A9B3 A9B6-A9B9 A9BC-A9BD A9CF A9E5-A9E6",
   "AA29-AA2E AA31-AA32 AA35-AA36 AA43 AA4C AA70 AA7C AAB0 AAB2-AAB4 AAB7-AAB8 AABE-AABF AAC1 AADD",
   "AAEC-AAED AAF3-AAF4 AAF6 AB5B-AB5F AB69-AB6B ABE5 ABE8 ABED FB1E FBB2-FBC2 FE00-FE0F FE13",
   "FE20-FE2F FE52 FE55 FEFF FF07 FF0E FF1A FF3E FF40 FF70 FF9E-FF9F FFE3 FFF9-FFFB 101FD 102E0",
   "10376-1037A 10780-10785 10787-107B0 107B2-107BA 10A01-10A03 10A05-10A06 10A0C-10A0F 10A38-10A3A",
   "10A3F 10AE5-10AE6 10D24-10D27 10EAB-10EAC 10F46-10F50 10F82-10F85 11001 11038-11046 11070",
   "11073-11074 1107F-11081 110B3-110B6 110B9-110BA 110BD 110C2 110CD 11100-11102 11127-1112B",
   "1112D-11134 11173 11180-11181 111B6-111BE 111C9-111CC 111CF 1122F-11231 11234 11236-11237 1123E",
   "112DF 112E3-112EA 11300-11301 1133B-1133C 11340 11366-1136C 11370-11374 11438-1143F 11442-11444",
   "11446 1145E 114B3-114B8 114BA 114BF-114C0 114C2-114C3 115B2-115B5 115BC-115BD 115BF-115C0",
   "115DC-115DD 11633-1163A 1163D 1163F-11640 116AB 116AD 116B0-116B5 116B7 1171D-1171F 11722-11725",
   "11727-1172B 1182F-11837 11839-1183A 1193B-1193C 1193E 11943 119D4-119D7 119DA-119DB 119E0",
   "11A01-11A0A 11A33-11A38 11A3B-11A3E 11A47 11A51-11A56 11A59-11A5B 11A8A-11A96 11A98-11A99",
   "11C30-11C36 11C38-11C3D 11C3F 11C92-11CA7 11CAA-11CB0 11CB2-11CB3 11CB5-11CB6 11D31-11D36 11D3A",
   "11D3C-11D3D 11D3F-11D45 11D47 11D90-11D91 11D95 11D97 11EF3-11EF4 13430-13438 16AF0-16AF4",
   "16B30-16B36 16B40-16B43 16F4F 16F8F-16F9F 16FE0-16FE1 16FE3-16FE4 1AFF0-1AFF3 1AFF5-1AFFB",
   "1AFFD-1AFFE 1BC9D-1BC9E 1BCA0-1BCA3 1CF00-1CF2D 1CF30-1CF46 1D167-1D169 1D173-1D182 1D185-1D18B",
   "1D1AA-1D1AD 1D242-1D244 1DA00-1DA36 1DA3B-1DA6C 1DA75 1DA84 1DA9B-1DA9F 1DAA1-1DAAF 1E000-1E006",
   "1E008-1E018 1E01B-1E021 1E023-1E024 1E026-1E02A 1E130-1E13D 1E2AE 1E2EC-1E2EF 1E8D0-1E8D6",
   "1E944-1E94B 1F3FB-1F3FF E0001 E0020-E007F E0100-E01EF"]
/-! ## One character -/

/-- `str.isspace()` of one character. -/
def isSpaceChar (c : Char) : Bool := whitespaceCodes.contains c.toNat

/-- `Py_UNICODE_TODECIMAL`: the value of a decimal digit. -/
def decimalValue? (c : Char) : Option Nat :=
  (decimalBlockStarts.find? fun start => start ≤ c.toNat && c.toNat < start + 10).map (c.toNat - ·)

/-- `str.isdigit()` of one character: a decimal digit or another digit. -/
def isDigitChar (c : Char) : Bool := (decimalValue? c).isSome || inRanges otherDigitRanges c.toNat

/-- `str.isprintable()` of one character. -/
def isPrintableChar (c : Char) : Bool :=
  if c.toNat < 0x80 then 0x20 ≤ c.toNat && c.toNat ≠ 0x7F else !inRanges nonPrintableRanges c.toNat

/-- A table's mapping of one character: its multi-character mapping, else its run's, else the
character itself. -/
def caseMapping (special : List (Nat × List Nat)) (runs : List (Nat × Nat × Nat × Int)) (c : Char) : List Char :=
  match special.lookup c.toNat with
  | some codes => codes.map Char.ofNat
  | none => [((runMapping runs c.toNat).map Char.ofNat).getD c]

/-- The full upper-case mapping of one character. -/
def upperChar (c : Char) : List Char :=
  if c.toNat < 0x80 then [c.toUpper] else caseMapping upperSpecial upperRuns c

/-- The full lower-case mapping of one character other than the capital sigma. -/
def lowerChar (c : Char) : List Char :=
  if c.toNat < 0x80 then [c.toLower] else caseMapping lowerSpecial lowerRuns c

/-- A cased character that is not case-ignorable. -/
def isCased (c : Char) : Bool := inRanges casedRanges c.toNat

/-- A case-ignorable character. -/
def isCaseIgnorable (c : Char) : Bool := inRanges caseIgnorableRanges c.toNat

/-- A capital sigma between `before` (nearest first) and `after` ends a word: past the
case-ignorable characters a cased one precedes it and none follows it (CPython's
`handle_capital_sigma`). -/
def finalSigma (before after : List Char) : Bool :=
  (match before.dropWhile isCaseIgnorable with
    | c :: _ => isCased c
    | [] => false) &&
  (match after.dropWhile isCaseIgnorable with
    | c :: _ => !isCased c
    | [] => true)

end ProfileCreator.Python
