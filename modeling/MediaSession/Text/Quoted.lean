import MediaSession.Text.ExtendingMark
import MediaSession.Text.Ignorable
import MediaSession.Text.Unprintable

/-!
# MediaSession.Text.Quoted

A text between double quotes, written so that it stays on one line and shows every character:
quotes, backslashes and characters that do not show by themselves are escaped.

* `isHidden`: whether a character is shown by its number
* `quote`: the quoted text
* `isHidden_eq_false_of_mem_quote`: a quoted text holds no hidden character, so no line end
-/

namespace MediaSession
namespace Text

/--
Nothing need be drawn for an unprintable or an ignorable character, and an extending mark merges
with another.
-/
def isHidden (c : Char) : Bool :=
  isUnprintable c || isIgnorable c || isExtendingMark c

/-- A hidden character is shown by its code point in lower-case hexadecimal. -/
def escapeChar (c : Char) : List Char :=
  match c with
  | '"' => ['\\', '"']
  | '\\' => ['\\', '\\']
  | '\n' => ['\\', 'n']
  | '\r' => ['\\', 'r']
  | '\t' => ['\\', 't']
  | '\x00' => ['\\', '0']
  | c =>
    if isHidden c then ['\\', 'u', '\x7b'] ++ Nat.toDigits 16 c.toNat ++ ['\x7d'] else [c]

def quote (s : String) : String :=
  String.ofList ('"' :: s.toList.flatMap escapeChar ++ ['"'])

theorem has_eq_false_of_ascii {ranges : CodeRanges} {c : Char}
    (apart : (ranges.all fun r => r.2 < 0x20 || 0x7F ≤ r.1) = true)
    (h : 0x20 ≤ c.toNat) (h' : c.toNat < 0x7F) : ranges.has c = false := by
  rw [Bool.eq_false_iff, ne_eq, CodeRanges.has_iff]
  rintro ⟨r, hr, hlo, hhi⟩
  have := List.all_eq_true.mp apart r hr
  simp only [Bool.or_eq_true, decide_eq_true_eq] at this
  omega

/-- Printable ASCII shows by itself, the space included. -/
theorem isHidden_eq_false_of_ascii {c : Char} (h : 0x20 ≤ c.toNat) (h' : c.toNat < 0x7F) :
    isHidden c = false := by
  rw [isHidden, Bool.or_eq_false_iff, Bool.or_eq_false_iff]
  exact ⟨⟨has_eq_false_of_ascii (by decide +kernel) h h',
    has_eq_false_of_ascii (by decide) h h'⟩, has_eq_false_of_ascii (by decide +kernel) h h'⟩

theorem isHidden_digitChar (n : Nat) (h : n < 16) : isHidden (Nat.digitChar n) = false := by
  have ascii : ∀ m < 16, 0x20 ≤ (Nat.digitChar m).toNat ∧ (Nat.digitChar m).toNat < 0x7F := by
    decide
  exact isHidden_eq_false_of_ascii (ascii n h).1 (ascii n h).2

theorem isHidden_eq_false_of_mem_toDigits {n : Nat} {c : Char} (h : c ∈ Nat.toDigits 16 n) :
    isHidden c = false := by
  have core : ∀ (fuel m : Nat) (ds : List Char), (∀ d ∈ ds, isHidden d = false) →
      ∀ d ∈ Nat.toDigitsCore 16 fuel m ds, isHidden d = false := by
    intro fuel
    induction fuel with
    | zero => intro m ds hds; simpa [Nat.toDigitsCore] using hds
    | succ fuel ih =>
      intro m ds hds
      have hm : ∀ d ∈ Nat.digitChar (m % 16) :: ds, isHidden d = false := by
        intro d hd
        rcases List.mem_cons.mp hd with rfl | hd
        · exact isHidden_digitChar _ (Nat.mod_lt _ (by decide))
        · exact hds d hd
      rw [Nat.toDigitsCore]
      split
      · exact hm
      · exact ih _ _ hm
  exact core _ _ [] (by simp) c h

theorem isHidden_eq_false_of_mem_escapeChar {c d : Char} (h : d ∈ escapeChar c) :
    isHidden d = false := by
  unfold escapeChar at h
  split at h
  case h_7 =>
    split at h
    · simp only [List.mem_append, List.mem_cons, List.not_mem_nil, or_false] at h
      rcases h with ((rfl | rfl | rfl) | h) | rfl
      case inl.inr => exact isHidden_eq_false_of_mem_toDigits h
      all_goals exact isHidden_eq_false_of_ascii (by decide) (by decide)
    · simp_all
  all_goals
    simp only [List.mem_cons, List.not_mem_nil, or_false] at h
    rcases h with rfl | rfl <;> exact isHidden_eq_false_of_ascii (by decide) (by decide)

theorem isHidden_eq_false_of_mem_quote {s : String} {c : Char} (h : c ∈ (quote s).toList) :
    isHidden c = false := by
  simp only [quote, String.toList_ofList, List.cons_append, List.mem_cons, List.mem_append,
    List.mem_flatMap, List.not_mem_nil, or_false] at h
  rcases h with rfl | ⟨b, _, h⟩ | rfl
  · exact isHidden_eq_false_of_ascii (by decide) (by decide)
  · exact isHidden_eq_false_of_mem_escapeChar h
  · exact isHidden_eq_false_of_ascii (by decide) (by decide)

end Text
end MediaSession
