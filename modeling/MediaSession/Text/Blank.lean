import MediaSession.Text.CodeRanges

/-!
# MediaSession.Text.Blank

White space in the sense of the Unicode property `White_Space`, and texts cut free of it at both
ends.

* `blankRanges`: the property as a table of code point ranges
* `trim`: the text between its first and its last character that is not blank
-/

namespace MediaSession
namespace Text

def blankRanges : CodeRanges :=
  [(0x09, 0x0D), (0x20, 0x20), (0x85, 0x85), (0xA0, 0xA0), (0x1680, 0x1680), (0x2000, 0x200A),
    (0x2028, 0x2029), (0x202F, 0x202F), (0x205F, 0x205F), (0x3000, 0x3000)]

def isBlank (c : Char) : Bool :=
  blankRanges.has c

/-- Blanks are dropped at the front and at the back, and kept inside. -/
def trim (cs : List Char) : List Char :=
  ((cs.dropWhile isBlank).reverse.dropWhile isBlank).reverse

end Text
end MediaSession
