import UriEndpoint.Text.Direction
import UriEndpoint.Text.Lowercase

/-!
# Ends of words

A capital sigma has two lower-case forms: one for the end of a word and one for everywhere else. A
word ends at a letter with a case that none follows; some characters are passed over in between. The
tables are data of version 14 of Unicode, limited to what names may hold.
-/

namespace UriEndpoint.Text

/-- The runs of letters that have a case. -/
def casedRuns : List (Nat × Nat) :=
  [(0x41, 0x5A), (0x61, 0x7A), (0xC0, 0xD6), (0xD8, 0xF6), (0xF8, 0x131), (0x134, 0x13E),
    (0x141, 0x148), (0x14A, 0x17E), (0x180, 0x1BA), (0x1BC, 0x1BF), (0x1CD, 0x1F0), (0x1F4, 0x293),
    (0x295, 0x2AF), (0x370, 0x373), (0x376, 0x377), (0x37B, 0x37D), (0x37F, 0x37F), (0x386, 0x386),
    (0x388, 0x38A), (0x38C, 0x38C), (0x38E, 0x3A1), (0x3A3, 0x3CF), (0x3D7, 0x3EF), (0x3F3, 0x3F4),
    (0x3F7, 0x3F8), (0x3FA, 0x481), (0x48A, 0x52F), (0x531, 0x556), (0x560, 0x586), (0x588, 0x588),
    (0x10A0, 0x10C5), (0x10C7, 0x10C7), (0x10CD, 0x10CD), (0x10D0, 0x10FA), (0x10FD, 0x10FF),
    (0x1C90, 0x1CBA), (0x1CBD, 0x1CBF), (0x1D00, 0x1D2B), (0x1D6B, 0x1D77), (0x1D79, 0x1D9A),
    (0x1E00, 0x1E99), (0x1E9C, 0x1F15), (0x1F18, 0x1F1D), (0x1F20, 0x1F45), (0x1F48, 0x1F4D),
    (0x1F50, 0x1F57), (0x1F59, 0x1F59), (0x1F5B, 0x1F5B), (0x1F5D, 0x1F5D), (0x1F5F, 0x1F70),
    (0x1F72, 0x1F72), (0x1F74, 0x1F74), (0x1F76, 0x1F76), (0x1F78, 0x1F78), (0x1F7A, 0x1F7A),
    (0x1F7C, 0x1F7C), (0x1FB0, 0x1FB1), (0x1FB6, 0x1FB6), (0x1FB8, 0x1FBA), (0x1FC6, 0x1FC6),
    (0x1FC8, 0x1FC8), (0x1FCA, 0x1FCA), (0x1FD0, 0x1FD2), (0x1FD6, 0x1FDA), (0x1FE0, 0x1FE2),
    (0x1FE4, 0x1FEA), (0x1FEC, 0x1FEC), (0x1FF6, 0x1FF6), (0x1FF8, 0x1FF8), (0x1FFA, 0x1FFA),
    (0x2126, 0x2126), (0x212A, 0x212B), (0x2132, 0x2132), (0x214E, 0x214E), (0x2183, 0x2184),
    (0x2C00, 0x2C7B), (0x2C7E, 0x2CE4), (0x2CEB, 0x2CEE), (0x2CF2, 0x2CF3), (0x2D00, 0x2D25),
    (0x2D27, 0x2D27), (0x2D2D, 0x2D2D), (0xA640, 0xA66D), (0xA680, 0xA69B), (0xA722, 0xA76F),
    (0xA771, 0xA787), (0xA78B, 0xA78E), (0xA790, 0xA7CA), (0xA7D0, 0xA7D1), (0xA7D3, 0xA7D3),
    (0xA7D5, 0xA7D9), (0xA7F5, 0xA7F6), (0xA7FA, 0xA7FA), (0xAB30, 0xAB5A), (0xAB60, 0xAB68),
    (0x10400, 0x1044F), (0x104B0, 0x104D3), (0x104D8, 0x104FB), (0x10570, 0x1057A),
    (0x1057C, 0x1058A), (0x1058C, 0x10592), (0x10594, 0x10595), (0x10597, 0x105A1),
    (0x105A3, 0x105B1), (0x105B3, 0x105B9), (0x105BB, 0x105BC), (0x10C80, 0x10CB2),
    (0x10CC0, 0x10CF2), (0x118A0, 0x118DF), (0x16E40, 0x16E7F), (0x1DF00, 0x1DF09),
    (0x1DF0B, 0x1DF1E), (0x1E900, 0x1E943)]

/-- The runs of characters inside a word that are neither letters nor nonspacing marks. -/
def passedRuns : List (Nat × Nat) :=
  [(0x2E, 0x2E), (0xB7, 0xB7), (0x2B9, 0x2C1), (0x2C6, 0x2D1), (0x2EC, 0x2EC), (0x2EE, 0x2EE),
    (0x375, 0x375), (0x559, 0x559), (0x5F4, 0x5F4), (0x6E5, 0x6E6), (0x7F4, 0x7F5), (0x81A, 0x81A),
    (0x824, 0x824), (0x828, 0x828), (0x8C9, 0x8C9), (0x971, 0x971), (0xCBF, 0xCBF), (0xCC6, 0xCC6),
    (0xE46, 0xE46), (0xEC6, 0xEC6), (0x17D7, 0x17D7), (0x1843, 0x1843), (0x1AA7, 0x1AA7),
    (0x1C78, 0x1C7D), (0x1D2F, 0x1D2F), (0x1D3B, 0x1D3B), (0x1D4E, 0x1D4E), (0x200C, 0x200D),
    (0x2E2F, 0x2E2F), (0x3005, 0x3005), (0x309D, 0x309E), (0x30FC, 0x30FE), (0xA015, 0xA015),
    (0xA4F8, 0xA4FD), (0xA60C, 0xA60C), (0xA67F, 0xA67F), (0xA717, 0xA71F), (0xA788, 0xA788),
    (0xA9CF, 0xA9CF), (0xA9E6, 0xA9E6), (0xAA70, 0xAA70), (0xAADD, 0xAADD), (0xAAF3, 0xAAF4),
    (0xFF0E, 0xFF0E), (0x10780, 0x10780), (0x11A07, 0x11A08), (0x11C3F, 0x11C3F),
    (0x16B40, 0x16B43), (0x16F93, 0x16F9F), (0x16FE0, 0x16FE1), (0x16FE3, 0x16FE3),
    (0x1AFF0, 0x1AFF3), (0x1AFF5, 0x1AFFB), (0x1AFFD, 0x1AFFE), (0x1E137, 0x1E13D),
    (0x1E94B, 0x1E94B)]

/-- Whether a character is passed over when the next letter of a word is looked for. -/
def isPassedOver (letter : Char) : Bool := isNonspacingMark letter || liesIn passedRuns letter

/-- Whether a text begins with a letter that has a case, characters passed over aside. -/
def beginsCased (text : Text) : Bool :=
  ((text.dropWhile isPassedOver).head?.map (liesIn casedRuns)).getD false

/-- Whether a letter ends a word between two parts of a text, the first given last one first. -/
def endsWord (before after : Text) : Bool := beginsCased before && !beginsCased after

/-- The lower-case form of a text after the characters before it, last one first, in which a sigma
at the end of a word has the form for that. -/
def loweredAfter (before : Text) : Text → Text
  | [] => []
  | letter :: rest =>
      (if letter = '\u03a3' && endsWord before rest then ['\u03c2'] else lowered letter) ++
        loweredAfter (letter :: before) rest

/-- The lower-case form of a text as words. -/
def loweredWords (text : Text) : Text := loweredAfter [] text

end UriEndpoint.Text
