import Scaffold.Text.Category

/-!
# Direction — characters in names of hosts

Which characters join their neighbours, and in which direction they are written.
-/

set_option autoImplicit false

/-!
## Joining — which letters are joined in writing

In some scripts a letter is joined to the one behind it, to the one in front, or to both. Marks are
passed over.
-/

namespace Scaffold.Text

namespace Joining

/-- How letters are joined: to both sides, to what is in front of them, to what is behind, or not. -/
def partition : Partition where
  names := "D Dual; R Right; L Left; U None"
  starts := "
  21 U 620 D 621 U 622 R 626 D 627 R 628 D 629 R 62A D 62F R 633 D 640 U 641 D 648 R 649 D 660 U
  66E D 671 R 674 U 679 D 688 R 69A D 6C0 R 6C1 D 6C3 R 6CC D 6CD R 6CE D 6CF R 6D0 D 6D2 R 6D4 U
  6D5 R 6DE U 6EE R 6F0 U 6FA D 6FD U 6FF D 700 U 710 R 712 D 715 R 71A D 71E R 71F D 728 R 729 D
  72A R 72B D 72C R 72D D 72F R 74E D 759 R 75C D 76B R 76D D 771 R 772 D 773 R 775 D 778 R 77A D
  780 U 7CA D 7F4 U 840 R 841 D 846 R 848 D 849 R 84A D 854 R 855 D 856 R 85E U 860 D 861 U 862 D
  866 U 867 R 868 D 869 R 883 U 886 D 887 U 889 D 88E R 8A0 D 8AA R 8AD U 8AE R 8AF D 8B1 R 8B3 D
  8B9 R 8BA D 8C9 U 1807 D 1808 U 1820 D 1880 U 1887 D 18B0 U A840 D A872 L A873 U 10AC0 D 10AC5
  R 10AC6 U 10AC7 R 10AC8 U 10AC9 R 10ACB U 10ACD L 10ACE R 10AD3 D 10AD7 L 10AD8 D 10ADD R 10ADE
  D 10AE1 R 10AE2 U 10AE4 R 10AEB D 10AEF R 10AF0 U 10B80 D 10B81 R 10B82 D 10B83 R 10B86 D 10B89
  R 10B8A D 10B8C R 10B8D D 10B8E R 10B90 D 10B91 R 10B99 U 10BA9 R 10BAD D 10BAF U 10D00 L 10D01
  D 10D22 R 10D23 D 10D30 U 10F30 D 10F33 R 10F34 D 10F45 U 10F51 D 10F54 R 10F55 U 10F70 D 10F74
  R 10F76 D 10F86 U 10FB0 D 10FB1 U 10FB2 D 10FB4 R 10FB7 U 10FB8 D 10FB9 R 10FBB D 10FBD R 10FBE
  D 10FC0 U 10FC1 D 10FC2 R 10FC4 D 10FC5 U 10FC9 R 10FCA D 10FCB L 10FE0 U 1E922 D 1E94B U"

/-- Passed over where letters are joined. -/
def isPassed (c : Char) : Bool := c.toNat == 0x1E94B || isNonspacing c

/-- A letter that is joined to the one behind it. -/
def goesOn (c : Char) : Bool :=
  [some "D", some "L"].contains (partition.nameAt? c.toNat)

/-- A letter that is joined to the one in front of it. -/
def comesFrom (c : Char) : Bool :=
  [some "D", some "R"].contains (partition.nameAt? c.toNat)

/-- The letters in front of a place, last first, and those behind it are joined across it. -/
def isJoined (before after : List Char) : Bool :=
  ((before.dropWhile isPassed).head?.any goesOn)
    && ((after.dropWhile isPassed).head?.any comesFrom)

end Joining

end Scaffold.Text

/-!
## Direction — which way characters run

Letters run from left to right or from right to left. Numerals run from left to right in either
surroundings; marks run with what they stand on, and the others with what is around them.
-/

namespace Scaffold.Text

/-- How a character runs. -/
inductive Direction where
  | left
  | right
  | numeral
  | rightNumeral
  | mark
  | neutral
deriving DecidableEq, Repr

namespace Direction

/-- The directions of the characters that are no marks. -/
def partition : Partition where
  names := "L Left; R Right; EN Numeral; AN Right_Numeral; ON Neutral"
  starts := "
  21 ON 30 EN 3B ON 61 L 7B ON DF L F7 ON F8 L 2B9 ON 2BB L 2C2 ON 2D0 L 2D2 ON 2EE L 2EF ON 371
  L 375 ON 377 L 3F6 ON 3F8 L 58A ON 5BE R 606 ON 608 R 609 ON 60B R 60C ON 60D R 60E ON 61B R
  660 AN 66A ON 66B AN 66D R 6DE ON 6E5 R 6E9 ON 6EE R 6F0 EN 6FA R 7F6 ON 7FA R 903 L 9F2 ON 9F4
  L 9FB ON 9FC L AF1 ON AF9 L BF3 ON C01 L C78 ON C7F L E3F ON E40 L F3A ON F3E L 1390 ON 13A0 L
  1400 ON 1401 L 169B ON 16A0 L 17DB ON 17DC L 17F0 ON 1810 L 1940 ON 1946 L 19DE ON 1A00 L 200C
  ON 214E L 218A ON 2336 L 237B ON 2395 L 2396 ON 26AC L 26AD ON 2800 L 2900 ON 2C30 L 2CE5 ON
  2CEC L 2CF9 ON 2D00 L 2E00 ON 3005 L 3008 ON 3021 L 3030 ON 3031 L 3037 ON 303B L 303D ON 3041
  L 30A0 ON 30A1 L 30FB ON 30FC L 31C0 ON 31F0 L 4DC0 ON 4E00 L A490 ON A4D0 L A60D ON A610 L
  A673 ON A681 L A700 ON A723 L A788 ON A789 L A828 ON A830 L A838 ON A840 L A874 ON A880 L AB6A
  ON ABC0 L FBB2 R FD3E ON FE73 R 10000 L 10101 ON 10102 L 10140 ON 1018D L 10190 ON 101D0 L
  102E1 EN 10300 L 10800 R 1091F ON 10920 R 10B39 ON 10B40 R 10D30 AN 10E80 R 11000 L 11052 ON
  11066 L 11660 ON 11680 L 11FD5 ON 11FFF L 16FE2 ON 16FE3 L 1D1E9 ON 1D2C0 L 1D300 ON 1D360 L
  1E2FF ON 1E4D0 L 1E800 R 1EEF0 ON 1F150 L 1F16D ON 1F170 L 1F1AD ON 1F1E6 L 1F260 ON 20000 L"

/-- Marks that take place, and so run like letters. -/
def spacing : List Nat := [0xCBF, 0xCC6, 0x11A07, 0x11A08, 0x11C3F]

/-- How a character runs. -/
def of (c : Char) : Direction :=
  if 0x300 ≤ c.toNat && !spacing.contains c.toNat && isNonspacing c then .mark
  else
    match partition.nameAt? c.toNat with
    | some "R" => .right
    | some "EN" => .numeral
    | some "AN" => .rightNumeral
    | some "ON" => .neutral
    | _ => .left

end Direction

end Scaffold.Text
