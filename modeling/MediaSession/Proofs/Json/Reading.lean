import MediaSession.Proofs.Json.Grammar

/-!
# MediaSession.Proofs.Json.Reading

Whatever is written by the grammar is read, and as what it was written for.

* `Reads`: a form is read from a text and whatever follows it
* `Written.reads`: by induction on the grammar, with two units of fuel for each character
* `parseChars_of_written`: a whole text, with blanks around it
-/

namespace MediaSession
namespace Json

def Reads (n : Nat) (cs rest : List Char) : Form → Prop
  | .value v => value n (cs ++ rest) = some (v, rest)
  | .items vs => items n (cs ++ rest) = some (vs, rest)
  | .members ms => members n (cs ++ rest) = some (ms, rest)

/-! ## Beginnings -/

theorem Written.head {v : Value} {cs : List Char} (h : Written (.value v) cs) :
    ∃ c tail, cs = c :: tail ∧ isBlank c = false ∧ c ≠ ']' := by
  cases h with
  | number h =>
    obtain ⟨c, tail, rfl, hc⟩ := h.head
    refine ⟨c, tail, rfl, ?_, ?_⟩
    · rcases hc with rfl | hc
      · rfl
      · rw [Bool.eq_false_iff]
        intro hblank
        simp only [isBlank, Bool.or_eq_true, decide_eq_true_eq] at hblank
        rcases hblank with ((rfl | rfl) | rfl) | rfl <;> cases hc
    · rintro rfl
      rcases hc with hc | hc <;> cases hc
  | _ => exact ⟨_, _, rfl, rfl, by decide⟩

theorem Written.skip {v : Value} {b cs : List Char} (h : Written (.value v) cs)
    (hb : Blank b) (rest : List Char) : skipBlank (b ++ (cs ++ rest)) = cs ++ rest := by
  obtain ⟨c, tail, rfl, hc, -⟩ := h.head
  rw [skipBlank_append hb, List.cons_append, skipBlank_cons hc]

theorem skipBlank_to {b : List Char} (hb : Blank b) {c : Char} (hc : isBlank c = false)
    (cs : List Char) : skipBlank (b ++ c :: cs) = c :: cs := by
  rw [skipBlank_append hb, skipBlank_cons hc]

/-- A number does not go on with a blank. -/
theorem startsWithout_goesOn {b tail : List Char} (hb : Blank b)
    (htail : StartsWithout GoesOn tail) : StartsWithout GoesOn (b ++ tail) := by
  cases b with
  | nil => exact htail
  | cons c b =>
    refine startsWithout_cons (fun hgoes => ?_) _
    have hblank := hb c List.mem_cons_self
    simp only [isBlank, Bool.or_eq_true, decide_eq_true_eq] at hblank
    rcases hblank with ((rfl | rfl) | rfl) | rfl <;>
      rcases hgoes with hgoes | hgoes | hgoes | hgoes <;> cases hgoes

theorem startsWithout_separator {c : Char} (hc : c ∈ [',', ']', '\x7d']) (cs : List Char) :
    StartsWithout GoesOn (c :: cs) := by
  refine startsWithout_cons ?_ cs
  simp only [List.mem_cons, List.not_mem_nil, or_false] at hc
  rcases hc with rfl | rfl | rfl <;> simp [GoesOn]

theorem Written.length_pos {f : Form} {cs : List Char} (h : Written f cs) : 0 < cs.length := by
  cases h with
  | number h =>
    obtain ⟨c, tail, rfl, -⟩ := h.head
    exact Nat.succ_pos _
  | _ =>
    simp only [List.length_append, List.length_cons]
    omega

/-! ## One step of the reader -/

theorem items_skipBlank (n : Nat) (cs : List Char) : items n (skipBlank cs) = items n cs := by
  cases n with
  | zero => rfl
  | succ n => rw [items, items, skipBlank_skipBlank]

theorem members_skipBlank (n : Nat) (cs : List Char) :
    members n (skipBlank cs) = members n cs := by
  cases n with
  | zero => rfl
  | succ n => rw [members, members, skipBlank_skipBlank]

theorem value_number {n : Nat} {c : Char} (hc : c = '-' ∨ c.isDigit = true) (cs : List Char) :
    value (n + 1) (c :: cs) = (number (c :: cs)).map fun p => (.number p.1, p.2) := by
  have hne : ∀ w, w ∈ ['n', 't', 'f', '"', '[', '\x7b'] → c ≠ w := by
    rintro w hw rfl
    rcases hc with rfl | hc
    · simp at hw
    · simp only [List.mem_cons, List.not_mem_nil, or_false] at hw
      rcases hw with rfl | rfl | rfl | rfl | rfl | rfl <;> cases hc
  rw [value]
  · cases number (c :: cs) <;> rfl
  all_goals exact hne _ (by simp)

theorem value_string {n : Nat} {cs : List Char} {ps : List Piece} (h : Marks cs ps)
    (rest : List Char) :
    value (n + 1) ('"' :: (cs ++ '"' :: rest)) = some (.string (textOf ps), rest) := by
  rw [value, literal_of_marks h]

theorem value_noItems {n : Nat} {b : List Char} (hb : Blank b) (rest : List Char) :
    value (n + 1) ('[' :: (b ++ ']' :: rest)) = some (.array [], rest) := by
  rw [value, skipBlank_to hb rfl]
  rfl

theorem value_noMembers {n : Nat} {b : List Char} (hb : Blank b) (rest : List Char) :
    value (n + 1) ('\x7b' :: (b ++ '\x7d' :: rest)) = some (.object [], rest) := by
  rw [value, skipBlank_to hb rfl]
  rfl

/-- An array with contents does not close at once. -/
theorem value_array {n : Nat} {vs : List Value} {cs : List Char} (h : Written (.items vs) cs)
    {rest : List Char} (hread : Reads n cs rest (.items vs)) :
    value (n + 1) ('[' :: (cs ++ rest)) = some (.array vs, rest) := by
  have hread : items n (cs ++ rest) = some (vs, rest) := hread
  have hopen : ∀ tail, skipBlank (cs ++ rest) ≠ ']' :: tail := by
    intro tail hclose
    cases h with
    | lastItem hb hv _ | item hb hv _ _ =>
      -- no value begins with the bracket
      obtain ⟨c, cs, rfl, -, hc⟩ := hv.head
      simp only [List.append_assoc, hv.skip hb] at hclose
      exact hc (List.cons.inj hclose).1
  rw [value]
  split
  · rename_i hclose
    exact absurd hclose (hopen _)
  · rw [items_skipBlank, hread]

theorem value_object {n : Nat} {ms : List (Option String × Value)} {cs : List Char}
    (h : Written (.members ms) cs) {rest : List Char} (hread : Reads n cs rest (.members ms)) :
    value (n + 1) ('\x7b' :: (cs ++ rest)) = some (.object ms, rest) := by
  have hread : members n (cs ++ rest) = some (ms, rest) := hread
  have hopen : ∀ tail, skipBlank (cs ++ rest) ≠ '\x7d' :: tail := by
    intro tail hclose
    cases h with
    | lastMember hb _ _ _ _ _ | member hb _ _ _ _ _ _ =>
      rw [List.append_assoc, List.cons_append, skipBlank_to hb rfl] at hclose
      cases hclose
  rw [value]
  split
  · rename_i hclose
    exact absurd hclose (hopen _)
  · rw [members_skipBlank, hread]

section Contents

variable {n : Nat} {v : Value} {b cs b' rest : List Char}

theorem items_last (hb : Blank b) (h : Written (.value v) cs) (hb' : Blank b')
    (hread : Reads n cs (b' ++ ']' :: rest) (.value v)) :
    items (n + 1) (b ++ (cs ++ (b' ++ ']' :: rest))) = some ([v], rest) := by
  have hread : value n (cs ++ (b' ++ ']' :: rest)) = some (v, b' ++ ']' :: rest) := hread
  have hclose := skipBlank_to hb' (c := ']') rfl rest
  simp only [items, h.skip hb, hread, hclose]

theorem items_more (hb : Blank b) (h : Written (.value v) cs) (hb' : Blank b')
    {vs : List Value} {ds : List Char}
    (hread : Reads n cs (b' ++ ',' :: (ds ++ rest)) (.value v))
    (hreads : Reads n ds rest (.items vs)) :
    items (n + 1) (b ++ (cs ++ (b' ++ ',' :: (ds ++ rest)))) = some (v :: vs, rest) := by
  have hread : value n (cs ++ (b' ++ ',' :: (ds ++ rest))) =
      some (v, b' ++ ',' :: (ds ++ rest)) := hread
  have hreads : items n (ds ++ rest) = some (vs, rest) := hreads
  have hcomma := skipBlank_to hb' (c := ',') rfl (ds ++ rest)
  simp only [items, h.skip hb, hread, hcomma, hreads]

variable {b₁ ks b₂ : List Char} {ps : List Piece}

theorem members_last (hb₁ : Blank b₁) (hk : Marks ks ps) (hb₂ : Blank b₂) (hb : Blank b)
    (h : Written (.value v) cs) (hb' : Blank b')
    (hread : Reads n cs (b' ++ '\x7d' :: rest) (.value v)) :
    members (n + 1)
        (b₁ ++ '"' :: (ks ++ '"' :: (b₂ ++ ':' :: (b ++ (cs ++ (b' ++ '\x7d' :: rest)))))) =
      some ([(textOf ps, v)], rest) := by
  have hread : value n (cs ++ (b' ++ '\x7d' :: rest)) = some (v, b' ++ '\x7d' :: rest) := hread
  have hquote := skipBlank_to hb₁ (c := '"') rfl
  have hcolon := skipBlank_to hb₂ (c := ':') rfl
  have hclose := skipBlank_to hb' (c := '\x7d') rfl rest
  simp only [members, hquote, literal_of_marks hk, hcolon, h.skip hb, hread, hclose]

theorem members_more (hb₁ : Blank b₁) (hk : Marks ks ps) (hb₂ : Blank b₂) (hb : Blank b)
    (h : Written (.value v) cs) (hb' : Blank b') {ms : List (Option String × Value)}
    {ds : List Char} (hread : Reads n cs (b' ++ ',' :: (ds ++ rest)) (.value v))
    (hreads : Reads n ds rest (.members ms)) :
    members (n + 1)
        (b₁ ++ '"' :: (ks ++ '"' ::
          (b₂ ++ ':' :: (b ++ (cs ++ (b' ++ ',' :: (ds ++ rest))))))) =
      some ((textOf ps, v) :: ms, rest) := by
  have hread : value n (cs ++ (b' ++ ',' :: (ds ++ rest))) =
      some (v, b' ++ ',' :: (ds ++ rest)) := hread
  have hreads : members n (ds ++ rest) = some (ms, rest) := hreads
  have hquote := skipBlank_to hb₁ (c := '"') rfl
  have hcolon := skipBlank_to hb₂ (c := ':') rfl
  have hcomma := skipBlank_to hb' (c := ',') rfl (ds ++ rest)
  simp only [members, hquote, literal_of_marks hk, hcolon, h.skip hb, hread, hcomma, hreads]

end Contents

/-! ## Whole texts -/

/-- By induction on the fuel, of which every character needs two units. -/
theorem Written.reads {f : Form} {cs : List Char} (h : Written f cs) {n : Nat}
    {rest : List Char} (hn : 2 * cs.length ≤ n) (hrest : StartsWithout GoesOn rest) :
    Reads n cs rest f := by
  induction n generalizing f cs rest with
  | zero =>
    have hpos := h.length_pos
    omega
  | succ n ih =>
    have hcomma := fun cs => startsWithout_separator (c := ',') (by simp) cs
    have hbracket := fun cs => startsWithout_separator (c := ']') (by simp) cs
    have hbrace := fun cs => startsWithout_separator (c := '\x7d') (by simp) cs
    cases h with
    | null | boolTrue | boolFalse => rfl
    | number h =>
      obtain ⟨c, tail, rfl, hc⟩ := h.head
      have hnumber := number_of_numeral h hrest
      show value (n + 1) (c :: (tail ++ rest)) = _
      rw [value_number hc, ← List.cons_append, hnumber]
      rfl
    | string h =>
      show value (n + 1) _ = _
      simpa using value_string h rest
    | noItems hb =>
      show value (n + 1) _ = _
      simpa using value_noItems hb rest
    | array h =>
      refine value_array h (ih h ?_ hrest)
      simp only [List.length_cons] at hn
      omega
    | noMembers hb =>
      show value (n + 1) _ = _
      simpa using value_noMembers hb rest
    | object h =>
      refine value_object h (ih h ?_ hrest)
      simp only [List.length_cons] at hn
      omega
    | lastItem hb h hb' =>
      simp only [List.length_append, List.length_cons] at hn
      have hread := ih h (by omega) (startsWithout_goesOn hb' (hbracket rest))
      show items (n + 1) _ = _
      simpa using items_last hb h hb' hread
    | @item v vs b cs b' ds hb h hb' hs =>
      simp only [List.length_append, List.length_cons] at hn
      have hread := ih h (by omega) (startsWithout_goesOn hb' (hcomma (ds ++ rest)))
      have hreads := ih hs (by omega) hrest
      show items (n + 1) _ = _
      simpa using items_more hb h hb' hread hreads
    | lastMember hb₁ hk hb₂ hb₃ h hb₄ =>
      simp only [List.length_append, List.length_cons] at hn
      have hread := ih h (by omega) (startsWithout_goesOn hb₄ (hbrace rest))
      show members (n + 1) _ = _
      simpa using members_last hb₁ hk hb₂ hb₃ h hb₄ hread
    | @member ps v ms b₁ ks b₂ b₃ cs b₄ ds hb₁ hk hb₂ hb₃ h hb₄ hs =>
      simp only [List.length_append, List.length_cons] at hn
      have hread := ih h (by omega) (startsWithout_goesOn hb₄ (hcomma (ds ++ rest)))
      have hreads := ih hs (by omega) hrest
      show members (n + 1) _ = _
      simpa using members_more hb₁ hk hb₂ hb₃ h hb₄ hread hreads

theorem parseChars_of_written {v : Value} {b cs b' : List Char} (hb : Blank b)
    (h : Written (.value v) cs) (hb' : Blank b') : parseChars (b ++ (cs ++ b')) = some v := by
  have hlength : 2 * cs.length ≤ 2 * (b ++ (cs ++ b')).length + 1 := by
    simp only [List.length_append]
    omega
  have hrest : StartsWithout GoesOn b' := by
    have hblank := startsWithout_goesOn hb' (startsWithout_nil GoesOn)
    rwa [List.append_nil] at hblank
  have hread : value _ (cs ++ b') = some (v, b') := h.reads hlength hrest
  have hend : skipBlank b' = [] := by
    have hskip := skipBlank_append hb' []
    rwa [List.append_nil] at hskip
  simp only [parseChars, h.skip hb, hread, hend, if_true]

end Json
end MediaSession
