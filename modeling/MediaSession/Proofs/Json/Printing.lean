import MediaSession.Proofs.Json.Reading

/-!
# MediaSession.Proofs.Json.Printing

The compact text of a value is written by the grammar, so reading it gives the value back. That
holds of every value, one that holds a string or a number without meaning too.

* `marks_escape`, `numeral_printNumber`: tokens as they are printed
* `written_print`: values as they are printed
* `parse_text`: reading undoes printing
-/

namespace MediaSession
namespace Json

open Value

/-! ## Strings -/

theorem hexValue?_hexDigit : ∀ n < 16, hexValue? (hexDigit n) = some n := by decide

/-- A control without a letter of its own is escaped by its number. -/
theorem codeUnit?_hexDigit {c : Char} (hc : c.toNat < 0x20) :
    codeUnit? '0' '0' (hexDigit (c.toNat / 16)) (hexDigit (c.toNat % 16)) = some c.toNat := by
  have hzero : hexValue? '0' = some 0 := rfl
  rw [codeUnit?, hzero, hexValue?_hexDigit _ (by omega), hexValue?_hexDigit _ (by omega)]
  simp only [Option.some.injEq]
  omega

/-- An escaped character is one mark. -/
theorem marks_escape (c : Char) {cs : List Char} {ps : List Piece} (h : Marks cs ps) :
    Marks (escape c ++ cs) (.char c :: ps) := by
  unfold escape
  split
  case h_8 hquote hslash _ _ _ _ _ =>
    split
    · rename_i hcontrol
      have hunit : Piece.ofUnit c.toNat = .char c := by
        rw [Piece.ofUnit, if_neg (by omega), Char.ofNat_toNat]
      rw [← hunit]
      exact .unit (codeUnit?_hexDigit hcontrol) h
    · rename_i hcontrol
      exact .plain hquote hslash (Nat.le_of_not_lt hcontrol) h
  all_goals exact .letter rfl h

theorem marks_flatMap_escape (cs : List Char) :
    Marks (cs.flatMap escape) (cs.map Piece.char) := by
  induction cs with
  | nil => exact .nil
  | cons c cs ih => exact marks_escape c ih

theorem joined?_map_char (cs : List Char) : joined? (cs.map Piece.char) = some cs := by
  induction cs with
  | nil => rfl
  | cons c cs ih => rw [List.map_cons, joined?, ih, Option.map_some]

theorem exists_marks (s : Option String) :
    ∃ cs ps, printString s = '"' :: (cs ++ ['"']) ∧ Marks cs ps ∧ textOf ps = s := by
  cases s with
  | none =>
    -- half a pair alone, which makes no text
    refine ⟨['\\', 'u', 'd', '8', '0', '0'], [.half 0xD800], rfl, ?_, rfl⟩
    exact .unit (u := 0xD800) rfl .nil
  | some s =>
    refine ⟨s.toList.flatMap escape, s.toList.map Piece.char, rfl, marks_flatMap_escape _, ?_⟩
    rw [textOf, joined?_map_char, Option.map_some, String.ofList_toList]

/-! ## Numbers -/

theorem head?_toDigits {n : Nat} (hn : n ≠ 0) : (Nat.toDigits 10 n).head? ≠ some '0' := by
  induction n using Nat.strongRecOn with
  | ind n ih =>
    rw [Nat.toDigits_eq_if (by decide)]
    split
    · rename_i hlt
      have hdigit : ∀ m < 10, m ≠ 0 → Nat.digitChar m ≠ '0' := by decide
      exact fun hzero => hdigit n hlt hn (Option.some.inj hzero)
    · have hne : Nat.toDigits 10 (n / 10) ≠ [] := Nat.toDigits_ne_nil
      obtain ⟨d, ds, hds⟩ := List.exists_cons_of_ne_nil hne
      have hhead := ih (n / 10) (by omega) (by omega)
      rw [hds] at hhead ⊢
      exact hhead

theorem whole_toDigits (n : Nat) : Whole (Nat.toDigits 10 n) n := by
  by_cases hn : n = 0
  · subst hn
    exact .zero
  · obtain ⟨d, ds, hds⟩ := List.exists_cons_of_ne_nil (Nat.toDigits_ne_nil (n := n) (b := 10))
    have hdigits : Digits (Nat.toDigits 10 n) :=
      ⟨Nat.toDigits_ne_nil, fun d hd => Nat.isDigit_of_mem_toDigits (by decide) (by decide) hd⟩
    have hvalue : Nat.ofDigitChars 10 (Nat.toDigits 10 n) 0 = n := Nat.ofDigitChars_ten_toDigits
    have hhead := head?_toDigits hn
    rw [hds] at hdigits hvalue hhead ⊢
    have hwhole := Whole.digits (fun hd => hhead (congrArg some hd)) hdigits
    rwa [hvalue] at hwhole

theorem numeral_printNumber (i : Option Int) : Numeral (printNumber i) i := by
  have hplain : ∀ (negative : Bool) {w : List Char} {n : Nat}, Whole w n →
      Numeral ((if negative then ['-'] else []) ++ w) (integer? negative n false) := by
    intro negative w n hw
    have hnumeral := Numeral.mk negative hw .absent .absent
    rwa [List.append_nil, List.append_nil] at hnumeral
  match i with
  | none => exact hplain true .zero
  | some (.ofNat n) => exact hplain false (whole_toDigits n)
  | some (.negSucc n) => exact hplain true (whole_toDigits (n + 1))

/-! ## Values -/

mutual

theorem written_print : ∀ v : Value, Written (.value v) v.print
  | .null => by
    rw [print]
    exact .null
  | .bool true => by
    rw [print]
    exact .boolTrue
  | .bool false => by
    rw [print]
    exact .boolFalse
  | .number i => by
    rw [print]
    exact .number (numeral_printNumber i)
  | .string s => by
    obtain ⟨cs, ps, hprint, hmarks, rfl⟩ := exists_marks s
    rw [print, hprint]
    exact .string hmarks
  | .array [] => by
    rw [print]
    exact .noItems blank_nil
  | .array (v :: vs) => by
    rw [print]
    exact .array (written_printItems vs (written_print v))
  | .object [] => by
    rw [print]
    exact .noMembers blank_nil
  | .object ((k, v) :: ms) => by
    have hmembers := written_printMembers ms k (written_print v)
    simpa [print] using Written.object hmembers

/-- One item, and what follows it. -/
theorem written_printItems : ∀ (vs : List Value) {v : Value} {cs : List Char},
    Written (.value v) cs → Written (.items (v :: vs)) (cs ++ printItems vs)
  | [], v, cs, h => by
    rw [printItems]
    exact .lastItem blank_nil h blank_nil
  | w :: vs, v, cs, h => by
    rw [printItems]
    exact .item blank_nil h blank_nil (written_printItems vs (written_print w))

/-- One member, and what follows it. -/
theorem written_printMembers : ∀ (ms : List (Option String × Value)) (k : Option String)
    {v : Value} {cs : List Char}, Written (.value v) cs →
    Written (.members ((k, v) :: ms)) (printString k ++ ':' :: (cs ++ printMembers ms))
  | [], k, v, cs, h => by
    obtain ⟨ks, ps, hprint, hmarks, rfl⟩ := exists_marks k
    have hmember := Written.lastMember blank_nil hmarks blank_nil blank_nil h blank_nil
    simpa [printMembers, hprint] using hmember
  | (k', w) :: ms, k, v, cs, h => by
    obtain ⟨ks, ps, hprint, hmarks, rfl⟩ := exists_marks k
    have hmembers := written_printMembers ms k' (written_print w)
    have hmember := Written.member blank_nil hmarks blank_nil blank_nil h blank_nil hmembers
    simpa [printMembers, hprint] using hmember

end

theorem parse_text (v : Value) : parse v.text = some v := by
  have hparse := parseChars_of_written blank_nil (written_print v) blank_nil
  rw [parse, text, String.toList_ofList]
  rwa [List.nil_append, List.append_nil] at hparse

end Json
end MediaSession
