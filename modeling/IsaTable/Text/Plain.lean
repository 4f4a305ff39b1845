/-
  Characters that are visible on their own.

  A character is plain if it has a visible form and takes a place of its own, so that a reader of
  the text sees it and sees nothing else changed by it.

  * `isFiller`: letters that are not shown.
  * `isSoundMark`: marks that extend a syllable and still take a place of their own.
  * `isPlain`: the characters that need no escape in source text.
-/
import IsaTable.Text.GraphemeExtend
import IsaTable.Text.Unprintable

namespace IsaTable.Text

/-- The Hangul fillers, the letters with the Unicode property Default_Ignorable_Code_Point. They
    hold the place of a missing part of a syllable and are not shown. -/
def isFiller (c : Char) : Bool :=
  [0x115F, 0x1160, 0x3164, 0xFFA0].contains c.toNat

/-- The halfwidth katakana sound marks, the letters with the property Grapheme_Extend. Unlike
    other extending characters they stand behind the one before them and not on it. -/
def isSoundMark (c : Char) : Bool :=
  [0xFF9E, 0xFF9F].contains c.toNat

/-- The characters that are visible on their own. -/
def isPlain (c : Char) : Bool :=
  !isUnprintable c && !isFiller c && (!isGraphemeExtend c || isSoundMark c)

end IsaTable.Text
