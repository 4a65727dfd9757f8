/-!
# MediaSession.Text.Ascii

Texts compared without regard to the case of ASCII letters. Every other character, an accented
letter too, stands only for itself.

* `fold`: the text with its ASCII capitals made small
* `upper`: the text with its small ASCII letters made capital
* `sameFolded`: the comparison
-/

namespace MediaSession
namespace Text

/-- The characters of a text, ASCII capitals made small. -/
def fold (s : String) : List Char := s.toList.map Char.toLower

/-- Small ASCII letters become capitals; nothing else changes. -/
def upper (cs : List Char) : List Char := cs.map Char.toUpper

/-- Two texts agree when they differ in the case of ASCII letters at most. -/
def sameFolded (a b : String) : Bool := fold a == fold b

theorem sameFolded_iff {a b : String} : sameFolded a b = true ↔ fold a = fold b := by
  simp [sameFolded]

theorem sameFolded_refl (a : String) : sameFolded a a = true := by
  simp [sameFolded]

end Text
end MediaSession
