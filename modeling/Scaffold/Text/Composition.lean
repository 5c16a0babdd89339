import Scaffold.Occurrences
import Scaffold.Text.Ranges

/-!
# Composition — characters and what they are composed of
-/

set_option autoImplicit false

/-!
## Spelling — code points that stand for others

A table of spellings says what code points stand for. It is written as a list of items with blanks
between them: `@C0` tells where the items behind it begin; `41+300` spells the next code point with
two others, `61-7A` spells as many code points as there are from the first to the last, each with
one of these, and `73*3` spells three code points with the same one.
-/

namespace Scaffold.Text

/-- What code points that follow each other stand for. -/
structure Spelling where
  /-- The first of them. -/
  first : Nat
  /-- How many they are. -/
  count : Nat
  /-- How far the letters of one are from those of the one before. -/
  step : Nat
  /-- The letters of the first. -/
  letters : List Nat

namespace Spelling

/-- What an item says of the code points from `place` on. -/
def ofItem (place : Nat) (item : List Char) : Spelling :=
  let front := item.takeWhile fun c => c.isDigit || ('A' ≤ c && c ≤ 'F')
  let first := Ranges.codeOf front
  match item.drop front.length with
  | '-' :: last => ⟨place, Ranges.codeOf last - first + 1, 1, [first]⟩
  | '*' :: count => ⟨place, (String.ofList count).toNat?.getD 1, 0, [first]⟩
  | '+' :: more =>
    ⟨place, 1, 0, first :: (Occurrences.split ['+'] more).map Ranges.codeOf⟩
  | _ => ⟨place, 1, 0, [first]⟩

/-- The spellings of a list of items, the next of which is about `place`. -/
def readFrom (place : Nat) : List String → List Spelling
  | [] => []
  | item :: rest =>
    match item.toList with
    | '@' :: digits => readFrom (Ranges.codeOf digits) rest
    | item =>
      let s := ofItem place item
      s :: readFrom (place + s.count) rest

/-- The spellings of a table. -/
@[noinline] def ofText (text : String) : List Spelling := readFrom 0 (words text)

/-- The letters that a code point stands for. -/
def letters? (table : List Spelling) (n : Nat) : Option (List Nat) :=
  table.findSome? fun s =>
    if s.first ≤ n && n < s.first + s.count then
      some (s.letters.map (· + s.step * (n - s.first)))
    else none

/-- The code point that two letters spell. -/
def whole? (table : List Spelling) (a b : Nat) : Option Nat :=
  (table.find? (·.letters == [a, b])).map Spelling.first

end Spelling

end Scaffold.Text

/-!
## Composition — letters with their marks as one character

A letter with marks behind it may be one character as well. In the composed form of a text the marks
of a letter stand in the order of their classes, and a letter is one character with every mark that
it can be one with, unless another mark of the same class stands between them.
-/

namespace Scaffold.Text

namespace Composition

/-- The classes of marks: where each begins, and its number. Letters have none. -/
def classes : String := "
  0 0 300 230 315 232 316 220 31A 232 31B 216 31C 220 321 202 323 220 327 202 329 220 334 1 339
  220 33D 230 345 240 346 230 347 220 34A 230 34D 220 34F 0 350 230 353 220 357 230 358 232 359
  220 35B 230 35C 233 35D 234 35F 233 360 234 362 233 363 230 370 0 483 230 488 0 591 220 592 230
  596 220 597 230 59A 222 59B 220 59C 230 5A2 220 5A8 230 5AA 220 5AB 230 5AD 222 5AE 228 5AF 230
  5B0 10 5B1 11 5B2 12 5B3 13 5B4 14 5B5 15 5B6 16 5B7 17 5B8 18 5B9 19 5BB 20 5BC 21 5BD 22 5BE
  0 5BF 23 5C0 0 5C1 24 5C2 25 5C3 0 5C4 230 5C5 220 5C6 0 5C7 18 5D0 0 610 230 618 30 619 31 61A
  32 61B 0 64B 27 64C 28 64D 29 64E 30 64F 31 650 32 651 33 652 34 653 230 655 220 657 230 65C
  220 65D 230 65F 220 660 0 670 35 671 0 6D6 230 6DD 0 6DF 230 6E3 220 6E4 230 6E5 0 6E7 230 6E9
  0 6EA 220 6EB 230 6ED 220 6EE 0 711 36 712 0 730 230 731 220 732 230 734 220 735 230 737 220
  73A 230 73B 220 73D 230 73E 220 73F 230 742 220 743 230 744 220 745 230 746 220 747 230 748 220
  749 230 74D 0 7EB 230 7F2 220 7F3 230 7F4 0 7FD 220 7FE 0 816 230 81A 0 81B 230 824 0 825 230
  828 0 829 230 830 0 859 220 85E 0 898 230 899 220 89C 230 8A0 0 8CA 230 8CF 220 8D4 230 8E2 0
  8E3 220 8E4 230 8E6 220 8E7 230 8E9 220 8EA 230 8ED 220 8F0 27 8F1 28 8F2 29 8F3 230 8F6 220
  8F7 230 8F9 220 8FB 230 900 0 93C 7 93D 0 94D 9 94E 0 951 230 952 220 953 230 955 0 9BC 7 9BD 0
  9CD 9 9CE 0 9FE 230 A01 0 A3C 7 A3E 0 A4D 9 A51 0 ABC 7 ABD 0 ACD 9 AD0 0 B3C 7 B3D 0 B4D 9 B55
  0 BCD 9 BD0 0 C3C 7 C3D 0 C4D 9 C55 84 C56 91 C58 0 CBC 7 CBD 0 CCD 9 CD5 0 D3B 9 D3D 0 D4D 9
  D4E 0 DCA 9 DCF 0 E38 103 E3A 9 E3F 0 E48 107 E4C 0 EB8 118 EBA 9 EBB 0 EC8 122 ECC 0 F18 220
  F1A 0 F35 220 F36 0 F37 220 F38 0 F39 216 F3A 0 F71 129 F72 130 F73 0 F74 132 F75 0 F7A 130 F7E
  0 F80 130 F81 0 F82 230 F84 9 F85 0 F86 230 F88 0 FC6 220 FC7 0 1037 7 1038 0 1039 9 103B 0
  108D 220 108E 0 135D 230 1360 0 1714 9 171F 0 1734 9 1735 0 17D2 9 17D3 0 17DD 230 17E0 0 18A9
  228 18AA 0 1939 222 193A 230 193B 220 1940 0 1A17 230 1A18 220 1A19 0 1A60 9 1A61 0 1A75 230
  1A7F 220 1A80 0 1AB0 230 1AB5 220 1ABB 230 1ABD 220 1ABE 0 1ABF 220 1AC1 230 1AC3 220 1AC5 230
  1ACA 220 1ACB 230 1B00 0 1B34 7 1B35 0 1B44 9 1B45 0 1B6B 230 1B6C 220 1B6D 230 1B74 0 1BAA 9
  1BAC 0 1BE6 7 1BE7 0 1BF2 9 1BFC 0 1C37 7 1C3B 0 1CD0 230 1CD3 0 1CD4 1 1CD5 220 1CDA 230 1CDC
  220 1CE0 230 1CE1 0 1CE2 1 1CE9 0 1CED 220 1CEE 0 1CF4 230 1CF5 0 1CF8 230 1CFA 0 1DC0 230 1DC2
  220 1DC3 230 1DCA 220 1DCB 230 1DCD 234 1DCE 214 1DCF 220 1DD0 202 1DD1 230 1DF6 232 1DF7 228
  1DF9 220 1DFA 218 1DFB 230 1DFC 233 1DFD 220 1DFE 230 1DFF 220 1E00 0 20D0 230 20D2 1 20D4 230
  20D8 1 20DB 230 20DD 0 20E1 230 20E2 0 20E5 1 20E7 230 20E8 220 20E9 230 20EA 1 20EC 220 20F0
  230 2100 0 2CEF 230 2CF2 0 2D7F 9 2D80 0 2DE0 230 2E00 0 302A 218 302B 228 302C 232 302D 222
  302E 224 3030 0 3099 8 309B 0 A66F 230 A670 0 A674 230 A67E 0 A69E 230 A6A0 0 A6F0 230 A6F2 0
  A806 9 A807 0 A82C 9 A830 0 A8C4 9 A8C5 0 A8E0 230 A8F2 0 A92B 220 A92E 0 A953 9 A95F 0 A9B3 7
  A9B4 0 A9C0 9 A9C1 0 AAB0 230 AAB1 0 AAB2 230 AAB4 220 AAB5 0 AAB7 230 AAB9 0 AABE 230 AAC0 0
  AAC1 230 AAC2 0 AAF6 9 AB01 0 ABED 9 ABF0 0 FB1E 26 FB1F 0 FE20 230 FE27 220 FE2E 230 FE30 0
  101FD 220 10280 0 102E0 220 102E1 0 10376 230 10380 0 10A0D 220 10A0E 0 10A0F 230 10A10 0 10A38
  230 10A39 1 10A3A 220 10A3F 9 10A40 0 10AE5 230 10AE6 220 10AEB 0 10D24 230 10D30 0 10EAB 230
  10EAD 0 10EFD 220 10F00 0 10F46 220 10F48 230 10F4B 220 10F4C 230 10F4D 220 10F51 0 10F82 230
  10F83 220 10F84 230 10F85 220 10F86 0 11046 9 11047 0 11070 9 11071 0 1107F 9 11080 0 110B9 9
  110BA 7 110BB 0 11100 230 11103 0 11133 9 11136 0 11173 7 11174 0 111C0 9 111C1 0 111CA 7 111CB
  0 11235 9 11236 7 11237 0 112E9 7 112EA 9 112F0 0 1133B 7 1133D 0 1134D 9 11350 0 11366 230
  11400 0 11442 9 11443 0 11446 7 11447 0 1145E 230 1145F 0 114C2 9 114C3 7 114C4 0 115BF 9 115C0
  7 115C1 0 1163F 9 11640 0 116B6 9 116B7 7 116B8 0 1172B 9 11730 0 11839 9 1183A 7 1183B 0 1193D
  9 1193F 0 11943 7 11944 0 119E0 9 119E1 0 11A34 9 11A35 0 11A47 9 11A50 0 11A99 9 11A9A 0 11C3F
  9 11C40 0 11D42 7 11D43 0 11D44 9 11D46 0 11D97 9 11D98 0 11F41 9 11F43 0 16AF0 1 16AF5 0 16B30
  230 16B37 0 16FF0 6 17000 0 1BC9E 1 1BC9F 0 1D165 216 1D167 1 1D16A 0 1D16D 226 1D16E 216 1D173
  0 1D17B 220 1D183 0 1D185 230 1D18A 220 1D18C 0 1D1AA 230 1D1AE 0 1D242 230 1D245 0 1E000 230
  1E030 0 1E08F 230 1E100 0 1E130 230 1E137 0 1E2AE 230 1E2C0 0 1E2EC 230 1E2F0 0 1E4EC 232 1E4EE
  220 1E4EF 230 1E4F0 0 1E8D0 220 1E900 0 1E944 230 1E94A 7 1E94B 0"

/-- The characters that a letter and a mark make, by what they come apart into. -/
def composites : String := "
  @C0 41+300 41+301 41+302 41+303 41+308 41+30A @C7 43+327 45+300 45+301 45+302 45+308 49+300
  49+301 49+302 49+308 @D1 4E+303 4F+300 4F+301 4F+302 4F+303 4F+308 @D9 55+300 55+301 55+302
  55+308 59+301 @E0 61+300 61+301 61+302 61+303 61+308 61+30A @E7 63+327 65+300 65+301 65+302
  65+308 69+300 69+301 69+302 69+308 @F1 6E+303 6F+300 6F+301 6F+302 6F+303 6F+308 @F9 75+300
  75+301 75+302 75+308 79+301 @FF 79+308 41+304 61+304 41+306 61+306 41+328 61+328 43+301 63+301
  43+302 63+302 43+307 63+307 43+30C 63+30C 44+30C 64+30C @112 45+304 65+304 45+306 65+306 45+307
  65+307 45+328 65+328 45+30C 65+30C 47+302 67+302 47+306 67+306 47+307 67+307 47+327 67+327
  48+302 68+302 @128 49+303 69+303 49+304 69+304 49+306 69+306 49+328 69+328 49+307 @134 4A+302
  6A+302 4B+327 6B+327 @139 4C+301 6C+301 4C+327 6C+327 4C+30C 6C+30C @143 4E+301 6E+301 4E+327
  6E+327 4E+30C 6E+30C @14C 4F+304 6F+304 4F+306 6F+306 4F+30B 6F+30B @154 52+301 72+301 52+327
  72+327 52+30C 72+30C 53+301 73+301 53+302 73+302 53+327 73+327 53+30C 73+30C 54+327 74+327
  54+30C 74+30C @168 55+303 75+303 55+304 75+304 55+306 75+306 55+30A 75+30A 55+30B 75+30B 55+328
  75+328 57+302 77+302 59+302 79+302 59+308 5A+301 7A+301 5A+307 7A+307 5A+30C 7A+30C @1A0 4F+31B
  6F+31B @1AF 55+31B 75+31B @1CD 41+30C 61+30C 49+30C 69+30C 4F+30C 6F+30C 55+30C 75+30C DC+304
  FC+304 DC+301 FC+301 DC+30C FC+30C DC+300 FC+300 @1DE C4+304 E4+304 226+304 227+304 C6+304
  E6+304 @1E6 47+30C 67+30C 4B+30C 6B+30C 4F+328 6F+328 1EA+304 1EB+304 1B7+30C 292+30C 6A+30C
  @1F4 47+301 67+301 @1F8 4E+300 6E+300 C5+301 E5+301 C6+301 E6+301 D8+301 F8+301 41+30F 61+30F
  41+311 61+311 45+30F 65+30F 45+311 65+311 49+30F 69+30F 49+311 69+311 4F+30F 6F+30F 4F+311
  6F+311 52+30F 72+30F 52+311 72+311 55+30F 75+30F 55+311 75+311 53+326 73+326 54+326 74+326 @21E
  48+30C 68+30C @226 41+307 61+307 45+327 65+327 D6+304 F6+304 D5+304 F5+304 4F+307 6F+307
  22E+304 22F+304 59+304 79+304 @385 A8+301 391+301 @388 395+301 397+301 399+301 @38C 39F+301
  @38E 3A5+301 3A9+301 3CA+301 @3AA 399+308 3A5+308 3B1+301 3B5+301 3B7+301 3B9+301 3CB+301 @3CA
  3B9+308 3C5+308 3BF+301 3C5+301 3C9+301 @3D3 3D2+301 3D2+308 @400 415+300 415+308 @403 413+301
  @407 406+308 @40C 41A+301 418+300 423+306 @419 418+306 @439 438+306 @450 435+300 435+308 @453
  433+301 @457 456+308 @45C 43A+301 438+300 443+306 @476 474+30F 475+30F @4C1 416+306 436+306
  @4D0 410+306 430+306 410+308 430+308 @4D6 415+306 435+306 @4DA 4D8+308 4D9+308 416+308 436+308
  417+308 437+308 @4E2 418+304 438+304 418+308 438+308 41E+308 43E+308 @4EA 4E8+308 4E9+308
  42D+308 44D+308 423+304 443+304 423+308 443+308 423+30B 443+30B 427+308 447+308 @4F8 42B+308
  44B+308 @622 627+653 627+654 648+654 627+655 64A+654 @6C0 6D5+654 @6C2 6C1+654 @6D3 6D2+654
  @929 928+93C @931 930+93C @934 933+93C @9CB 9C7+9BE 9C7+9D7 @B48 B47+B56 @B4B B47+B3E B47+B57
  @B94 B92+BD7 @BCA BC6+BBE BC7+BBE BC6+BD7 @C48 C46+C56 @CC0 CBF+CD5 @CC7 CC6+CD5 CC6+CD6 @CCA
  CC6+CC2 CCA+CD5 @D4A D46+D3E D47+D3E D46+D57 @DDA DD9+DCA @DDC DD9+DCF DDC+DCA DD9+DDF @1026
  1025+102E @1B06 1B05+1B35 @1B08 1B07+1B35 @1B0A 1B09+1B35 @1B0C 1B0B+1B35 @1B0E 1B0D+1B35 @1B12
  1B11+1B35 @1B3B 1B3A+1B35 @1B3D 1B3C+1B35 @1B40 1B3E+1B35 1B3F+1B35 @1B43 1B42+1B35 @1E00
  41+325 61+325 42+307 62+307 42+323 62+323 42+331 62+331 C7+301 E7+301 44+307 64+307 44+323
  64+323 44+331 64+331 44+327 64+327 44+32D 64+32D 112+300 113+300 112+301 113+301 45+32D 65+32D
  45+330 65+330 228+306 229+306 46+307 66+307 47+304 67+304 48+307 68+307 48+323 68+323 48+308
  68+308 48+327 68+327 48+32E 68+32E 49+330 69+330 CF+301 EF+301 4B+301 6B+301 4B+323 6B+323
  4B+331 6B+331 4C+323 6C+323 1E36+304 1E37+304 4C+331 6C+331 4C+32D 6C+32D 4D+301 6D+301 4D+307
  6D+307 4D+323 6D+323 4E+307 6E+307 4E+323 6E+323 4E+331 6E+331 4E+32D 6E+32D D5+301 F5+301
  D5+308 F5+308 14C+300 14D+300 14C+301 14D+301 50+301 70+301 50+307 70+307 52+307 72+307 52+323
  72+323 1E5A+304 1E5B+304 52+331 72+331 53+307 73+307 53+323 73+323 15A+307 15B+307 160+307
  161+307 1E62+307 1E63+307 54+307 74+307 54+323 74+323 54+331 74+331 54+32D 74+32D 55+324 75+324
  55+330 75+330 55+32D 75+32D 168+301 169+301 16A+308 16B+308 56+303 76+303 56+323 76+323 57+300
  77+300 57+301 77+301 57+308 77+308 57+307 77+307 57+323 77+323 58+307 78+307 58+308 78+308
  59+307 79+307 5A+302 7A+302 5A+323 7A+323 5A+331 7A+331 68+331 74+308 77+30A 79+30A @1E9B
  17F+307 @1EA0 41+323 61+323 41+309 61+309 C2+301 E2+301 C2+300 E2+300 C2+309 E2+309 C2+303
  E2+303 1EA0+302 1EA1+302 102+301 103+301 102+300 103+300 102+309 103+309 102+303 103+303
  1EA0+306 1EA1+306 45+323 65+323 45+309 65+309 45+303 65+303 CA+301 EA+301 CA+300 EA+300 CA+309
  EA+309 CA+303 EA+303 1EB8+302 1EB9+302 49+309 69+309 49+323 69+323 4F+323 6F+323 4F+309 6F+309
  D4+301 F4+301 D4+300 F4+300 D4+309 F4+309 D4+303 F4+303 1ECC+302 1ECD+302 1A0+301 1A1+301
  1A0+300 1A1+300 1A0+309 1A1+309 1A0+303 1A1+303 1A0+323 1A1+323 55+323 75+323 55+309 75+309
  1AF+301 1B0+301 1AF+300 1B0+300 1AF+309 1B0+309 1AF+303 1B0+303 1AF+323 1B0+323 59+300 79+300
  59+323 79+323 59+309 79+309 59+303 79+303 @1F00 3B1+313 3B1+314 1F00+300 1F01+300 1F00+301
  1F01+301 1F00+342 1F01+342 391+313 391+314 1F08+300 1F09+300 1F08+301 1F09+301 1F08+342
  1F09+342 3B5+313 3B5+314 1F10+300 1F11+300 1F10+301 1F11+301 @1F18 395+313 395+314 1F18+300
  1F19+300 1F18+301 1F19+301 @1F20 3B7+313 3B7+314 1F20+300 1F21+300 1F20+301 1F21+301 1F20+342
  1F21+342 397+313 397+314 1F28+300 1F29+300 1F28+301 1F29+301 1F28+342 1F29+342 3B9+313 3B9+314
  1F30+300 1F31+300 1F30+301 1F31+301 1F30+342 1F31+342 399+313 399+314 1F38+300 1F39+300
  1F38+301 1F39+301 1F38+342 1F39+342 3BF+313 3BF+314 1F40+300 1F41+300 1F40+301 1F41+301 @1F48
  39F+313 39F+314 1F48+300 1F49+300 1F48+301 1F49+301 @1F50 3C5+313 3C5+314 1F50+300 1F51+300
  1F50+301 1F51+301 1F50+342 1F51+342 @1F59 3A5+314 @1F5B 1F59+300 @1F5D 1F59+301 @1F5F 1F59+342
  3C9+313 3C9+314 1F60+300 1F61+300 1F60+301 1F61+301 1F60+342 1F61+342 3A9+313 3A9+314 1F68+300
  1F69+300 1F68+301 1F69+301 1F68+342 1F69+342 3B1+300 @1F72 3B5+300 @1F74 3B7+300 @1F76 3B9+300
  @1F78 3BF+300 @1F7A 3C5+300 @1F7C 3C9+300 @1F80 1F00+345 1F01+345 1F02+345 1F03+345 1F04+345
  1F05+345 1F06+345 1F07+345 1F08+345 1F09+345 1F0A+345 1F0B+345 1F0C+345 1F0D+345 1F0E+345
  1F0F+345 1F20+345 1F21+345 1F22+345 1F23+345 1F24+345 1F25+345 1F26+345 1F27+345 1F28+345
  1F29+345 1F2A+345 1F2B+345 1F2C+345 1F2D+345 1F2E+345 1F2F+345 1F60+345 1F61+345 1F62+345
  1F63+345 1F64+345 1F65+345 1F66+345 1F67+345 1F68+345 1F69+345 1F6A+345 1F6B+345 1F6C+345
  1F6D+345 1F6E+345 1F6F+345 3B1+306 3B1+304 1F70+345 3B1+345 3AC+345 @1FB6 3B1+342 1FB6+345
  391+306 391+304 391+300 @1FBC 391+345 @1FC1 A8+342 1F74+345 3B7+345 3AE+345 @1FC6 3B7+342
  1FC6+345 395+300 @1FCA 397+300 @1FCC 397+345 1FBF+300 1FBF+301 1FBF+342 3B9+306 3B9+304 3CA+300
  @1FD6 3B9+342 3CA+342 399+306 399+304 399+300 @1FDD 1FFE+300 1FFE+301 1FFE+342 3C5+306 3C5+304
  3CB+300 @1FE4 3C1+313 3C1+314 3C5+342 3CB+342 3A5+306 3A5+304 3A5+300 @1FEC 3A1+314 A8+300
  @1FF2 1F7C+345 3C9+345 3CE+345 @1FF6 3C9+342 1FF6+345 39F+300 @1FFA 3A9+300 @1FFC 3A9+345 @219A
  2190+338 2192+338 @21AE 2194+338 @21CD 21D0+338 21D4+338 21D2+338 @2204 2203+338 @2209 2208+338
  @220C 220B+338 @2224 2223+338 @2226 2225+338 @2241 223C+338 @2244 2243+338 @2247 2245+338 @2249
  2248+338 @2260 3D+338 @2262 2261+338 @226D 224D+338 3C+338 3E+338 2264+338 2265+338 @2274
  2272+338 2273+338 @2278 2276+338 2277+338 @2280 227A+338 227B+338 @2284 2282+338 2283+338 @2288
  2286+338 2287+338 @22AC 22A2+338 22A8+338 22A9+338 22AB+338 @22E0 227C+338 227D+338 2291+338
  2292+338 @22EA 22B2+338 22B3+338 22B4+338 22B5+338 @304C 304B+3099 @304E 304D+3099 @3050
  304F+3099 @3052 3051+3099 @3054 3053+3099 @3056 3055+3099 @3058 3057+3099 @305A 3059+3099 @305C
  305B+3099 @305E 305D+3099 @3060 305F+3099 @3062 3061+3099 @3065 3064+3099 @3067 3066+3099 @3069
  3068+3099 @3070 306F+3099 306F+309A @3073 3072+3099 3072+309A @3076 3075+3099 3075+309A @3079
  3078+3099 3078+309A @307C 307B+3099 307B+309A @3094 3046+3099 @309E 309D+3099 @30AC 30AB+3099
  @30AE 30AD+3099 @30B0 30AF+3099 @30B2 30B1+3099 @30B4 30B3+3099 @30B6 30B5+3099 @30B8 30B7+3099
  @30BA 30B9+3099 @30BC 30BB+3099 @30BE 30BD+3099 @30C0 30BF+3099 @30C2 30C1+3099 @30C5 30C4+3099
  @30C7 30C6+3099 @30C9 30C8+3099 @30D0 30CF+3099 30CF+309A @30D3 30D2+3099 30D2+309A @30D6
  30D5+3099 30D5+309A @30D9 30D8+3099 30D8+309A @30DC 30DB+3099 30DB+309A @30F4 30A6+3099 @30F7
  30EF+3099 30F0+3099 30F1+3099 30F2+3099 @30FE 30FD+3099 @1109A 11099+110BA @1109C 1109B+110BA
  @110AB 110A5+110BA @1112E 11131+11127 11132+11127 @1134B 11347+1133E 11347+11357 @114BB
  114B9+114BA 114B9+114B0 @114BE 114B9+114BD @115BA 115B8+115AF 115B9+115AF @11938 11935+11930"

/-- What is known of letters and marks. -/
structure Table where
  classes : List (Nat × Nat)
  composites : List Spelling

/-- The classes with the places where they begin. -/
def pairs : List String → List (Nat × Nat)
  | start :: mark :: rest => (Ranges.codeOf start.toList, mark.toNat?.getD 0) :: pairs rest
  | _ => []

/-- Reads a table. -/
@[noinline] def Table.ofText (classes composites : String) : Table :=
  ⟨pairs (words classes), Spelling.ofText composites⟩

namespace Table

/-- The class of a code point among classes by where they begin; `found` is the last one before. -/
def classFrom (n found : Nat) : List (Nat × Nat) → Nat
  | (start, mark) :: rest => if n < start then found else classFrom n mark rest
  | [] => found

/-- The class of a mark; a letter has none. -/
def classOf (t : Table) (n : Nat) : Nat := classFrom n 0 t.classes

/-- The parts of a Korean syllable. -/
def syllable? (n : Nat) : Option (List Nat) :=
  if 0xAC00 ≤ n && n ≤ 0xD7A3 then
    let place := n - 0xAC00
    let closed := if place % 28 = 0 then [] else [0x11A7 + place % 28]
    some ([0x1100 + place / 588, 0x1161 + place % 588 / 28] ++ closed)
  else none

/-- What a character comes apart into, in as many steps as `depth` says. -/
def apart (t : Table) : Nat → Nat → List Nat
  | 0, n => [n]
  | depth + 1, n =>
    match syllable? n with
    | some parts => parts
    | none =>
      match Spelling.letters? t.composites n with
      | some parts => parts.flatMap (t.apart depth)
      | none => [n]

/-- Marks in the order of their classes. -/
def sorted (t : Table) (marks : List Nat) : List Nat :=
  marks.mergeSort fun a b => t.classOf a ≤ t.classOf b

/-- A text with the marks of each letter in order; `marks` are those in front of it. -/
def ordered (t : Table) (marks : List Nat) : List Nat → List Nat
  | [] => t.sorted marks
  | c :: rest =>
    if t.classOf c = 0 then t.sorted marks ++ c :: t.ordered [] rest
    else t.ordered (marks ++ [c]) rest

/-- The one character that two make. -/
def whole? (t : Table) (a b : Nat) : Option Nat :=
  if 0x1100 ≤ a && a ≤ 0x1112 && 0x1161 ≤ b && b ≤ 0x1175 then
    some (0xAC00 + (a - 0x1100) * 588 + (b - 0x1161) * 28)
  else if 0xAC00 ≤ a && a ≤ 0xD7A3 && (a - 0xAC00) % 28 = 0 && 0x11A8 ≤ b && b ≤ 0x11C2 then
    some (a + (b - 0x11A7))
  else Spelling.whole? t.composites a b

/-- Makes a letter one with what stands behind it; `kept` are the marks behind the letter that did
not become one with it. -/
def joined (t : Table) (letter : Nat) (kept : List Nat) : List Nat → List Nat
  | [] => letter :: kept
  | c :: rest =>
    let isFree := kept.getLast?.all fun mark => t.classOf mark < t.classOf c
    match if isFree then t.whole? letter c else none with
    | some whole => t.joined whole kept rest
    | none =>
      if t.classOf c = 0 then letter :: kept ++ t.joined c [] rest
      else t.joined letter (kept ++ [c]) rest

/-- The composed form of a text. No character takes more than three steps to come apart. -/
def composed (t : Table) (text : List Nat) : List Nat :=
  match t.ordered [] (text.flatMap (t.apart 4)) with
  | [] => []
  | c :: rest => t.joined c [] rest

end Table

/-- The composed form of a text, after the tables of classes and of composites. -/
@[noinline] def composedBy (classes composites : String) (text : List Nat) : List Nat :=
  (Table.ofText classes composites).composed text

/-- The class of a mark, after the table of classes. -/
@[noinline] def classBy (classes : String) (n : Nat) : Nat :=
  Table.classFrom n 0 (pairs (words classes))

/-- A mark behind which the letter is joined to the next one. -/
def isJoiningMark (c : Char) : Bool := classBy classes c.toNat == 9

end Composition

/-- The composed form of a text. Before the first mark all characters are composed. -/
def composed (text : List Char) : List Char :=
  if text.all (·.toNat < 0x300) then text
  else
    (Composition.composedBy Composition.classes Composition.composites
      (text.map Char.toNat)).map Char.ofNat

end Scaffold.Text
