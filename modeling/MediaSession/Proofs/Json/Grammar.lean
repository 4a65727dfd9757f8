import MediaSession.Json.Parser

/-!
# MediaSession.Proofs.Json.Grammar

Which characters write which JSON, and how tokens are read. What a token is read from may be
followed by anything that does not go on with it.

* `Marks`: a string between its quotes; `literal_of_marks` reads it
* `Numeral`: a number; `number_of_numeral` reads it
* `Written`: values, the items of arrays and the members of objects, with blanks between tokens
-/

namespace MediaSession
namespace Json

def Blank (cs : List Char) : Prop := ∀ c ∈ cs, isBlank c = true

theorem blank_nil : Blank [] := fun _ hc => absurd hc List.not_mem_nil

theorem skipBlank_append {b : List Char} (hb : Blank b) (cs : List Char) :
    skipBlank (b ++ cs) = skipBlank cs :=
  List.dropWhile_append_of_pos hb

theorem skipBlank_cons {c : Char} (hc : isBlank c = false) (cs : List Char) :
    skipBlank (c :: cs) = c :: cs :=
  List.dropWhile_cons_of_neg (Bool.not_eq_true _ ▸ hc)

theorem skipBlank_skipBlank (cs : List Char) : skipBlank (skipBlank cs) = skipBlank cs := by
  induction cs with
  | nil => rfl
  | cons c cs ih =>
    cases hc : isBlank c with
    | true =>
      have hskip : skipBlank (c :: cs) = skipBlank cs := List.dropWhile_cons_of_pos hc
      rw [hskip, ih]
    | false => rw [skipBlank_cons hc, skipBlank_cons hc]

/-! ## Strings -/

/-- Characters and escapes in a row, and the pieces they stand for. -/
inductive Marks : List Char → List Piece → Prop
  | nil : Marks [] []
  | plain {c : Char} {cs : List Char} {ps : List Piece} (hquote : c ≠ '"') (hslash : c ≠ '\\')
      (hcontrol : 0x20 ≤ c.toNat) (h : Marks cs ps) : Marks (c :: cs) (.char c :: ps)
  | letter {e c : Char} {cs : List Char} {ps : List Piece} (he : escaped? e = some c)
      (h : Marks cs ps) : Marks ('\\' :: e :: cs) (.char c :: ps)
  | unit {a b c d : Char} {u : Nat} {cs : List Char} {ps : List Piece}
      (hu : codeUnit? a b c d = some u) (h : Marks cs ps) :
      Marks ('\\' :: 'u' :: a :: b :: c :: d :: cs) (.ofUnit u :: ps)

/-- The text that pieces make, if they make one. -/
def textOf (ps : List Piece) : Option String := (joined? ps).map String.ofList

theorem pieces_plain {c : Char} (hquote : c ≠ '"') (hslash : c ≠ '\\')
    (hcontrol : 0x20 ≤ c.toNat) (cs : List Char) :
    pieces (c :: cs) = (pieces cs).map fun p => (.char c :: p.1, p.2) := by
  have hplain : ¬ (c = '\\' ∨ c.toNat < 0x20) := not_or.mpr ⟨hslash, Nat.not_lt_of_le hcontrol⟩
  rw [pieces]
  · rw [if_neg hplain]
    cases pieces cs <;> rfl
  all_goals simp_all

theorem pieces_letter {e c : Char} (he : escaped? e = some c) (cs : List Char) :
    pieces ('\\' :: e :: cs) = (pieces cs).map fun p => (.char c :: p.1, p.2) := by
  have hne : e ≠ 'u' := by
    rintro rfl
    cases he
  rw [pieces]
  · rw [he]
    cases pieces cs <;> rfl
  all_goals simp_all

theorem pieces_unit {a b c d : Char} {u : Nat} (hu : codeUnit? a b c d = some u)
    (cs : List Char) :
    pieces ('\\' :: 'u' :: a :: b :: c :: d :: cs) =
      (pieces cs).map fun p => (.ofUnit u :: p.1, p.2) := by
  rw [pieces, hu]
  cases pieces cs <;> rfl

theorem pieces_of_marks {cs : List Char} {ps : List Piece} (h : Marks cs ps)
    (rest : List Char) : pieces (cs ++ '"' :: rest) = some (ps, rest) := by
  induction h with
  | nil => rfl
  | plain hquote hslash hcontrol _ ih =>
    rw [List.cons_append, pieces_plain hquote hslash hcontrol, ih]
    rfl
  | letter he _ ih =>
    rw [List.cons_append, List.cons_append, pieces_letter he, ih]
    rfl
  | unit hu _ ih =>
    simp only [List.cons_append]
    rw [pieces_unit hu, ih]
    rfl

theorem literal_of_marks {cs : List Char} {ps : List Piece} (h : Marks cs ps)
    (rest : List Char) : literal (cs ++ '"' :: rest) = some (textOf ps, rest) := by
  rw [literal, pieces_of_marks h]
  rfl

/-! ## Numbers -/

def Digits (ds : List Char) : Prop := ds ≠ [] ∧ ∀ d ∈ ds, d.isDigit = true

/-- A list does not begin with a character of which `p` holds. -/
def StartsWithout (p : Char → Prop) (cs : List Char) : Prop := ∀ c ∈ cs.head?, ¬ p c

inductive Whole : List Char → Nat → Prop
  | zero : Whole ['0'] 0
  | digits {d : Char} {ds : List Char} (hd : d ≠ '0') (h : Digits (d :: ds)) :
      Whole (d :: ds) (Nat.ofDigitChars 10 (d :: ds) 0)

/-- A fraction, and whether there is one. -/
inductive Fraction : List Char → Bool → Prop
  | absent : Fraction [] false
  | present {ds : List Char} (h : Digits ds) : Fraction ('.' :: ds) true

/-- An exponent, and whether there is one. -/
inductive Exponent : List Char → Bool → Prop
  | absent : Exponent [] false
  | present {e : Char} {sign ds : List Char} (he : e = 'e' ∨ e = 'E')
      (hsign : sign = [] ∨ sign = ['+'] ∨ sign = ['-']) (h : Digits ds) :
      Exponent (e :: sign ++ ds) true

/-- A number, and the integer it denotes if it does. -/
inductive Numeral : List Char → Option Int → Prop
  | mk (negative : Bool) {w f e : List Char} {n : Nat} {fraction exponent : Bool}
      (hw : Whole w n) (hf : Fraction f fraction) (he : Exponent e exponent) :
      Numeral ((if negative then ['-'] else []) ++ w ++ f ++ e)
        (integer? negative n (fraction || exponent))

/-- What may go on with a number. -/
def GoesOn (c : Char) : Prop := c.isDigit = true ∨ c = '.' ∨ c = 'e' ∨ c = 'E'

theorem digits?_append {ds tail : List Char} (hds : Digits ds)
    (htail : StartsWithout (·.isDigit = true) tail) : digits? (ds ++ tail) = some (ds, tail) := by
  have hstop : tail.takeWhile Char.isDigit = [] ∧ tail.dropWhile Char.isDigit = tail := by
    cases tail with
    | nil => exact ⟨rfl, rfl⟩
    | cons c tail =>
      have hc : ¬ c.isDigit = true := htail c rfl
      exact ⟨List.takeWhile_cons_of_neg hc, List.dropWhile_cons_of_neg hc⟩
  obtain ⟨hne, hdigits⟩ := hds
  rw [digits?, List.takeWhile_append_of_pos hdigits, List.dropWhile_append_of_pos hdigits,
    hstop.1, hstop.2, List.append_nil]
  cases ds with
  | nil => exact absurd rfl hne
  | cons d ds => rfl

theorem startsWithout_nil (p : Char → Prop) : StartsWithout p [] := fun _ hc => nomatch hc

theorem startsWithout_cons {p : Char → Prop} {c : Char} (hc : ¬ p c) (cs : List Char) :
    StartsWithout p (c :: cs) :=
  fun _ hd => Option.some.inj hd ▸ hc

theorem StartsWithout.mono {p q : Char → Prop} {cs : List Char} (h : StartsWithout p cs)
    (hqp : ∀ c, q c → p c) : StartsWithout q cs :=
  fun c hc hq => h c hc (hqp c hq)

theorem Digits.startsWithout {ds : List Char} (h : Digits ds) {p : Char → Prop}
    (hp : ∀ c, c.isDigit = true → ¬ p c) (tail : List Char) : StartsWithout p (ds ++ tail) := by
  obtain ⟨hne, hdigits⟩ := h
  cases ds with
  | nil => exact absurd rfl hne
  | cons d ds => exact startsWithout_cons (hp d (hdigits d List.mem_cons_self)) _

theorem whole?_append {w tail : List Char} {n : Nat} (h : Whole w n)
    (htail : StartsWithout (·.isDigit = true) tail) : whole? (w ++ tail) = some (n, tail) := by
  cases h with
  | zero => rfl
  | digits hd hdigits =>
    rw [whole?]
    · rw [digits?_append hdigits htail]
      rfl
    · intro rest hzero
      exact hd (List.cons.inj hzero).1

theorem fraction?_append {f tail : List Char} {fraction : Bool} (h : Fraction f fraction)
    (htail : StartsWithout (fun c => c.isDigit = true ∨ c = '.') tail) :
    fraction? (f ++ tail) = some (fraction, tail) := by
  cases h with
  | absent =>
    rw [List.nil_append, fraction?]
    rintro rest rfl
    exact htail '.' rfl (.inr rfl)
  | present hdigits =>
    rw [List.cons_append, fraction?, digits?_append hdigits (htail.mono fun c hc => .inl hc)]
    rfl

theorem Fraction.startsWithout {f tail : List Char} {fraction : Bool} (h : Fraction f fraction)
    (htail : StartsWithout (fun c => c.isDigit = true ∨ c = '.') tail) :
    StartsWithout (·.isDigit = true) (f ++ tail) := by
  cases h with
  | absent => exact htail.mono fun c hc => .inl hc
  | present _ => exact startsWithout_cons (by decide) _

theorem skipSign_append {sign ds : List Char} (hsign : sign = [] ∨ sign = ['+'] ∨ sign = ['-'])
    (h : Digits ds) (tail : List Char) : skipSign (sign ++ (ds ++ tail)) = ds ++ tail := by
  rcases hsign with rfl | rfl | rfl
  · have hplus := h.startsWithout (p := (· = '+')) (by rintro c hc rfl; cases hc) tail
    have hminus := h.startsWithout (p := (· = '-')) (by rintro c hc rfl; cases hc) tail
    rw [List.nil_append, skipSign]
    · rintro rest hrest
      exact hplus '+' (by rw [hrest]; rfl) rfl
    · rintro rest hrest
      exact hminus '-' (by rw [hrest]; rfl) rfl
  · rfl
  · rfl

theorem exponent?_append {e rest : List Char} {exponent : Bool} (h : Exponent e exponent)
    (hrest : StartsWithout GoesOn rest) : exponent? (e ++ rest) = some (exponent, rest) := by
  cases h with
  | absent =>
    rw [List.nil_append, exponent?]
    · rintro tail rfl
      exact hrest 'e' rfl (.inr (.inr (.inl rfl)))
    · rintro tail rfl
      exact hrest 'E' rfl (.inr (.inr (.inr rfl)))
  | present he hsign hdigits =>
    have hread := digits?_append hdigits (hrest.mono fun c hc => .inl hc)
    rcases he with rfl | rfl
    all_goals
      rw [List.cons_append, List.cons_append, List.append_assoc, exponent?,
        skipSign_append hsign hdigits, hread]
      rfl

theorem Exponent.startsWithout {e rest : List Char} {exponent : Bool} (h : Exponent e exponent)
    (hrest : StartsWithout GoesOn rest) :
    StartsWithout (fun c => c.isDigit = true ∨ c = '.') (e ++ rest) := by
  cases h with
  | absent => exact hrest.mono fun c hc => hc.imp_right .inl
  | present he _ _ => rcases he with rfl | rfl <;> exact startsWithout_cons (by decide) _

theorem Whole.digits_self {w : List Char} {n : Nat} (h : Whole w n) : Digits w := by
  cases h with
  | zero => exact ⟨List.cons_ne_nil _ _, List.forall_mem_singleton.mpr rfl⟩
  | digits _ hdigits => exact hdigits

/-- A number begins with a minus or a digit. -/
theorem Numeral.head {cs : List Char} {i : Option Int} (h : Numeral cs i) :
    ∃ c tail, cs = c :: tail ∧ (c = '-' ∨ c.isDigit = true) := by
  cases h with
  | mk negative hw _ _ =>
    cases negative with
    | true => exact ⟨_, _, rfl, .inl rfl⟩
    | false =>
      obtain ⟨hne, hdigits⟩ := hw.digits_self
      obtain ⟨d, ds, rfl⟩ := List.exists_cons_of_ne_nil hne
      exact ⟨_, _, rfl, .inr (hdigits d List.mem_cons_self)⟩

theorem number_of_numeral {cs rest : List Char} {i : Option Int} (h : Numeral cs i)
    (hrest : StartsWithout GoesOn rest) : number (cs ++ rest) = some (i, rest) := by
  cases h with
  | mk negative hw hf he =>
    have hexponent := exponent?_append he hrest
    have hfraction := fraction?_append hf (he.startsWithout hrest)
    have hwhole := whole?_append hw (hf.startsWithout (he.startsWithout hrest))
    simp only [List.append_assoc]
    cases negative with
    | true => simp [number, hwhole, hfraction, hexponent]
    | false =>
      have hminus := hw.digits_self.startsWithout (p := (· = '-'))
        (by rintro c hc rfl; cases hc)
      simp only [Bool.false_eq_true, if_false, List.nil_append]
      unfold number
      split
      rename_i heq
      split at heq
      · rename_i hsigned
        exact absurd rfl (hminus _ '-' (by rw [hsigned]; rfl))
      · obtain ⟨rfl, rfl⟩ := Prod.mk.inj heq
        simp [hwhole, hfraction, hexponent]

/-! ## Values -/

/-- What can be written: a value, or the contents of an array or an object with its end. -/
inductive Form
  | value (v : Value)
  | items (vs : List Value)
  | members (ms : List (Option String × Value))

/-- The texts of a form. Blanks stand between tokens, but not around a value. -/
inductive Written : Form → List Char → Prop
  | null : Written (.value .null) ['n', 'u', 'l', 'l']
  | boolTrue : Written (.value (.bool true)) ['t', 'r', 'u', 'e']
  | boolFalse : Written (.value (.bool false)) ['f', 'a', 'l', 's', 'e']
  | number {cs : List Char} {i : Option Int} (h : Numeral cs i) : Written (.value (.number i)) cs
  | string {cs : List Char} {ps : List Piece} (h : Marks cs ps) :
      Written (.value (.string (textOf ps))) ('"' :: (cs ++ ['"']))
  | noItems {b : List Char} (hb : Blank b) : Written (.value (.array [])) ('[' :: (b ++ [']']))
  | array {vs : List Value} {cs : List Char} (h : Written (.items vs) cs) :
      Written (.value (.array vs)) ('[' :: cs)
  | noMembers {b : List Char} (hb : Blank b) :
      Written (.value (.object [])) ('\x7b' :: (b ++ ['\x7d']))
  | object {ms : List (Option String × Value)} {cs : List Char} (h : Written (.members ms) cs) :
      Written (.value (.object ms)) ('\x7b' :: cs)
  | lastItem {v : Value} {b cs b' : List Char} (hb : Blank b) (h : Written (.value v) cs)
      (hb' : Blank b') : Written (.items [v]) (b ++ (cs ++ (b' ++ [']'])))
  | item {v : Value} {vs : List Value} {b cs b' ds : List Char} (hb : Blank b)
      (h : Written (.value v) cs) (hb' : Blank b') (hs : Written (.items vs) ds) :
      Written (.items (v :: vs)) (b ++ (cs ++ (b' ++ ',' :: ds)))
  | lastMember {ps : List Piece} {v : Value} {b₁ ks b₂ b₃ cs b₄ : List Char} (hb₁ : Blank b₁)
      (hk : Marks ks ps) (hb₂ : Blank b₂) (hb₃ : Blank b₃) (h : Written (.value v) cs)
      (hb₄ : Blank b₄) :
      Written (.members [(textOf ps, v)])
        (b₁ ++ '"' :: (ks ++ '"' :: (b₂ ++ ':' :: (b₃ ++ (cs ++ (b₄ ++ ['\x7d']))))))
  | member {ps : List Piece} {v : Value} {ms : List (Option String × Value)}
      {b₁ ks b₂ b₃ cs b₄ ds : List Char} (hb₁ : Blank b₁) (hk : Marks ks ps) (hb₂ : Blank b₂)
      (hb₃ : Blank b₃) (h : Written (.value v) cs) (hb₄ : Blank b₄)
      (hs : Written (.members ms) ds) :
      Written (.members ((textOf ps, v) :: ms))
        (b₁ ++ '"' :: (ks ++ '"' :: (b₂ ++ ':' :: (b₃ ++ (cs ++ (b₄ ++ ',' :: ds))))))

end Json
end MediaSession
