/-!
# MediaSession.Text.CodeRanges

Sets of characters, given as closed ranges of code points.

* `CodeRanges.has`: whether a character is in the set
-/

namespace MediaSession
namespace Text

/-- First and last code point of each range. -/
abbrev CodeRanges := List (Nat × Nat)

namespace CodeRanges

/-- A character is in the set when its code point lies in one of the ranges. -/
def has (ranges : CodeRanges) (c : Char) : Bool :=
  ranges.any fun r => r.1 ≤ c.toNat && c.toNat ≤ r.2

theorem has_iff {ranges : CodeRanges} {c : Char} :
    ranges.has c = true ↔ ∃ r ∈ ranges, r.1 ≤ c.toNat ∧ c.toNat ≤ r.2 := by
  simp [has]

end CodeRanges
end Text
end MediaSession
