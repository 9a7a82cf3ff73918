import Passbook.Text.Mark
/-!
# Direction

Whether a character runs from left to right or from right to left, or follows its neighbours.  Numbers
have kinds of their own.
-/

namespace Passbook.Text

/-- How a character runs. -/
inductive Direction where
  | leftToRight
  | rightToLeft
  | europeanNumber
  | arabicNumber
  /-- A mark, which runs like the character in front of it. -/
  | mark
  /-- Punctuation and the like. -/
  | neutral
deriving DecidableEq, Repr

/-- The code points of European numbers, as closed ranges. -/
def europeanNumberRanges : List (Nat × Nat) :=
  [
    (0x0030, 0x0039), (0x06F0, 0x06F9), (0x102E1, 0x102FB), (0x10D40, 0x10D49)
  ]

/-- The code points of Arabic numbers, as closed ranges. -/
def arabicNumberRanges : List (Nat × Nat) :=
  [
    (0x0660, 0x0669), (0x066B, 0x066C), (0x10D30, 0x10D39), (0x10E60, 0x10E7E)
  ]

/-- The code points of marks without a cell of their own that run from left to right all the same. -/
def leftToRightMarkRanges : List (Nat × Nat) :=
  [
    (0x0CBF, 0x0CBF), (0x0CC6, 0x0CC6), (0x11A07, 0x11A08), (0x11C3F, 0x11C3F)
  ]

/-- The code points of punctuation and symbols that follow their neighbours, as closed ranges in rising
order.  The ranges run over characters that cannot stand in a name. -/
def neutralRanges : List (Nat × Nat) :=
  [
    (0x0000, 0x0008), (0x000E, 0x001B), (0x0021, 0x002F), (0x003A, 0x0040), (0x005B, 0x0060),
    (0x007B, 0x00D7), (0x00F7, 0x00F7), (0x02B9, 0x02BA), (0x02C2, 0x02CF), (0x02D2, 0x02ED),
    (0x02EF, 0x02FF), (0x0375, 0x0375), (0x03F6, 0x03F6), (0x058A, 0x058F), (0x0606, 0x0607),
    (0x0609, 0x060A), (0x060C, 0x060C), (0x060E, 0x060F), (0x066A, 0x066A), (0x06DE, 0x06DE),
    (0x06E9, 0x06E9), (0x07F6, 0x07F9), (0x09F2, 0x09F3), (0x09FB, 0x09FB), (0x0AF1, 0x0AF1),
    (0x0BF3, 0x0BFA), (0x0C78, 0x0C7E), (0x0E3F, 0x0E3F), (0x0F3A, 0x0F3D), (0x1390, 0x1399),
    (0x1400, 0x1400), (0x169B, 0x169C), (0x17DB, 0x17DB), (0x17F0, 0x180A), (0x1940, 0x1945),
    (0x19DE, 0x19FF), (0x200C, 0x214D), (0x218A, 0x2335), (0x237B, 0x2394), (0x2396, 0x26AB),
    (0x26AD, 0x27FF), (0x2900, 0x2BFF), (0x2CE5, 0x2CEA), (0x2CF9, 0x2CFF), (0x2E00, 0x3004),
    (0x3008, 0x3020), (0x3030, 0x3030), (0x3037, 0x3037), (0x303D, 0x303F), (0x30A0, 0x30A0),
    (0x30FB, 0x30FB), (0x31C0, 0x31E5), (0x4DC0, 0x4DFF), (0xA490, 0xA4C6), (0xA60D, 0xA60F),
    (0xA673, 0xA67F), (0xA700, 0xA721), (0xA788, 0xA788), (0xA828, 0xA82B), (0xA838, 0xA839),
    (0xA874, 0xA877), (0xAB6A, 0xAB6B), (0xFBC3, 0xFE46), (0x10101, 0x10101), (0x10140, 0x1018C),
    (0x10190, 0x101A0), (0x1091F, 0x1091F), (0x10B39, 0x10B3F), (0x10D6E, 0x10D6E),
    (0x10ED0, 0x10ED8), (0x11052, 0x11065), (0x11660, 0x1166C), (0x11FD5, 0x11FF1),
    (0x16FE2, 0x16FE2), (0x1CC00, 0x1CEF0), (0x1D1E9, 0x1D245), (0x1D300, 0x1D356),
    (0x1E2FF, 0x1E2FF), (0x1EEF0, 0x1F12F), (0x1F16D, 0x1F16F), (0x1F1AD, 0x1F1AD),
    (0x1F260, 0x1FBFA)
  ]

/-- The code points of the scripts that run from right to left, as closed ranges. -/
def rightToLeftRanges : List (Nat × Nat) :=
  [
    (0x0590, 0x08FF), (0xFB1D, 0xFDFF), (0xFE70, 0xFEFF), (0x10800, 0x10FFF), (0x1E800, 0x1EFFF)
  ]

/-- How a character of a name runs. -/
def direction (c : Char) : Direction :=
  if inRanges leftToRightMarkRanges c then .leftToRight
  else if isNonspacing c then .mark
  else if inRanges europeanNumberRanges c then .europeanNumber
  else if inRanges arabicNumberRanges c then .arabicNumber
  else if inRanges neutralRanges c then .neutral
  else if inRanges rightToLeftRanges c then .rightToLeft
  else .leftToRight

example : "a-5\u05d0\u0661\u0301".toList.map direction
    = [.leftToRight, .neutral, .europeanNumber, .rightToLeft, .arabicNumber, .mark] := by
  decide +kernel

end Passbook.Text
