import MediaSession.Codec.Names

/-!
# MediaSession.Proofs.Codec.Splitting

The names in a list are its longest stretches without a separator, in order.

* `IsStretch`, `IsName`, `Places`: a stretch, one that is part of no longer one, and where all of
  these stand in a text
* `Parted`, `parted_pieces`: a text as pieces with one separator after each but the last
* `exists_places`: the pieces that are not empty are the names
* `split_push_append`: the names on both sides of a separator
-/

namespace MediaSession
namespace NameList

/-- Characters from one place up to another, at least one, and none of them a separator. -/
def IsStretch (cs : List Char) (i j : Nat) : Prop :=
  i < j ∧ ∀ k, i ≤ k → k < j → ∃ c, cs[k]? = some c ∧ isSeparator c = false

/-- A stretch that is part of no longer one. -/
structure IsName (cs : List Char) (i j : Nat) : Prop where
  stretch : IsStretch cs i j
  longest : ∀ i' j', IsStretch cs i' j' → i' ≤ i → j ≤ j' → i' = i ∧ j' = j

/-- Where the names of a text stand, from first to last. -/
structure Places (cs : List Char) (spans : List (Nat × Nat)) : Prop where
  apart : spans.Pairwise fun s t => s.2 < t.1
  mem_iff : ∀ i j, (i, j) ∈ spans ↔ IsName cs i j

/-- A text and its pieces: a separator stands after each but the last. -/
inductive Parted : List Char → List (List Char) → Prop where
  | last {p : List Char} (hp : ∀ c ∈ p, isSeparator c = false) : Parted p [p]
  | more {p cs : List Char} {c : Char} {ps : List (List Char)}
      (hp : ∀ c ∈ p, isSeparator c = false) (hc : isSeparator c = true) (h : Parted cs ps) :
      Parted (p ++ c :: cs) (p :: ps)

variable {cs p : List Char} {c : Char} {ps : List (List Char)} {i j : Nat}

theorem parted_pieces (cs : List Char) : Parted cs (pieces cs) := by
  induction cs with
  | nil => exact .last (by simp)
  | cons c cs ih =>
    cases hc : isSeparator c with
    | true =>
      rw [pieces, if_pos hc]
      exact .more (p := []) (by simp) hc ih
    | false =>
      rw [pieces, if_neg (by simp [hc])]
      -- the character goes before the first of the pieces that follow
      generalize pieces cs = ps at ih ⊢
      cases ih with
      | last hp => exact .last (List.forall_mem_cons.mpr ⟨hc, hp⟩)
      | more hp hd h => exact .more (p := c :: _) (List.forall_mem_cons.mpr ⟨hc, hp⟩) hd h

/-! ## Stretches -/

theorem getElem?_after (p cs : List Char) (c : Char) (k : Nat) :
    (p ++ c :: cs)[k + (p.length + 1)]? = cs[k]? := by
  rw [List.getElem?_append_right (by omega)]
  have hplace : k + (p.length + 1) - p.length = k + 1 := by omega
  rw [hplace, List.getElem?_cons_succ]

theorem isStretch_within (hp : ∀ c ∈ p, isSeparator c = false) (hij : i < j)
    (hj : j ≤ p.length) (rest : List Char) : IsStretch (p ++ rest) i j := by
  refine ⟨hij, fun k _ hk => ⟨p[k], ?_, hp _ (List.getElem_mem _)⟩⟩
  rw [List.getElem?_append_left (by omega), List.getElem?_eq_getElem]

theorem le_length_of_isStretch (h : IsStretch cs i j) : j ≤ cs.length := by
  obtain ⟨hij, hall⟩ := h
  obtain ⟨c, hc, -⟩ := hall (j - 1) (by omega) (by omega)
  have hlt := (List.getElem?_eq_some_iff.mp hc).1
  omega

/-- A separator is in no stretch, so that a stretch is on one side of it. -/
theorem isStretch_append_iff (hp : ∀ c ∈ p, isSeparator c = false) (hc : isSeparator c = true) :
    IsStretch (p ++ c :: cs) i j ↔ (i < j ∧ j ≤ p.length) ∨
      ∃ i' j', i = i' + (p.length + 1) ∧ j = j' + (p.length + 1) ∧ IsStretch cs i' j' := by
  constructor
  · rintro ⟨hij, hall⟩
    by_cases hi : i ≤ p.length
    · refine .inl ⟨hij, Nat.le_of_not_lt fun hj => ?_⟩
      obtain ⟨d, hd, hfree⟩ := hall p.length hi hj
      rw [List.getElem?_append_right (Nat.le_refl _), Nat.sub_self] at hd
      cases hd
      simp [hc] at hfree
    · obtain ⟨i', rfl⟩ := Nat.exists_eq_add_of_le' (Nat.lt_of_not_le hi)
      obtain ⟨j', rfl⟩ := Nat.exists_eq_add_of_le' (show p.length + 1 ≤ j by omega)
      refine .inr ⟨i', j', rfl, rfl, by omega, fun k hik hkj => ?_⟩
      rw [← getElem?_after p cs c k]
      exact hall _ (by omega) (by omega)
  · rintro (⟨hij, hj⟩ | ⟨i', j', rfl, rfl, hij, hall⟩)
    · exact isStretch_within hp hij hj _
    · refine ⟨by omega, fun k hik hkj => ?_⟩
      obtain ⟨k', rfl⟩ := Nat.exists_eq_add_of_le' (show p.length + 1 ≤ k by omega)
      rw [getElem?_after]
      exact hall k' (by omega) (by omega)

/-! ## Names -/

theorem isName_iff_of_free (hp : ∀ c ∈ p, isSeparator c = false) :
    IsName p i j ↔ p ≠ [] ∧ i = 0 ∧ j = p.length := by
  have hstretch : ∀ i j, i < j → j ≤ p.length → IsStretch p i j := by
    intro i j hij hj
    simpa using isStretch_within hp hij hj []
  constructor
  · intro h
    have hle := le_length_of_isStretch h.stretch
    have hlt := h.stretch.1
    obtain ⟨hi, hj⟩ := h.longest 0 p.length (hstretch _ _ (by omega) (by omega)) (by omega) hle
    exact ⟨List.length_pos_iff.mp (by omega), hi.symm, hj.symm⟩
  · rintro ⟨hne, rfl, rfl⟩
    refine ⟨hstretch _ _ (List.length_pos_iff.mpr hne) (Nat.le_refl _), ?_⟩
    intro i' j' h' hi' hj'
    have hle := le_length_of_isStretch h'
    omega

theorem isName_append_iff (hp : ∀ c ∈ p, isSeparator c = false) (hc : isSeparator c = true) :
    IsName (p ++ c :: cs) i j ↔ (p ≠ [] ∧ i = 0 ∧ j = p.length) ∨
      ∃ i' j', i = i' + (p.length + 1) ∧ j = j' + (p.length + 1) ∧ IsName cs i' j' := by
  constructor
  · rintro ⟨hstretch, hlongest⟩
    rcases (isStretch_append_iff hp hc).mp hstretch with ⟨hij, hj⟩ | ⟨i', j', rfl, rfl, h'⟩
    · have hwhole := isStretch_within hp (by omega) (Nat.le_refl _) (c :: cs) (i := 0)
      obtain ⟨hi, hj⟩ := hlongest 0 p.length hwhole (by omega) hj
      exact .inl ⟨List.length_pos_iff.mp (by omega), hi.symm, hj.symm⟩
    · refine .inr ⟨i', j', rfl, rfl, h', fun i'' j'' h'' hi hj => ?_⟩
      have hshifted := (isStretch_append_iff hp hc).mpr (.inr ⟨i'', j'', rfl, rfl, h''⟩)
      have hsame := hlongest _ _ hshifted (by omega) (by omega)
      omega
  · rintro (⟨hne, rfl, rfl⟩ | ⟨i', j', rfl, rfl, h'⟩)
    · have hpos := List.length_pos_iff.mpr hne
      refine ⟨isStretch_within hp hpos (Nat.le_refl _) _, fun i'' j'' h'' hi hj => ?_⟩
      rcases (isStretch_append_iff hp hc).mp h'' with ⟨-, hle⟩ | ⟨i', j', rfl, rfl, -⟩
      · omega
      · omega
    · refine ⟨(isStretch_append_iff hp hc).mpr (.inr ⟨i', j', rfl, rfl, h'.stretch⟩), ?_⟩
      intro i'' j'' h'' hi hj
      rcases (isStretch_append_iff hp hc).mp h'' with ⟨-, hle⟩ | ⟨i₂, j₂, rfl, rfl, h₂⟩
      · have hlt := h'.stretch.1
        omega
      · have hsame := h'.longest i₂ j₂ h₂ (by omega) (by omega)
        omega

/-! ## All names of a text -/

/-- Where a piece stands in a text that begins with it, if the piece is a name. -/
def own (p : List Char) : List (Nat × Nat) := if p.isEmpty then [] else [(0, p.length)]

theorem mem_own : (i, j) ∈ own p ↔ p ≠ [] ∧ i = 0 ∧ j = p.length := by
  cases p <;> simp [own]

theorem map_own (p rest : List Char) :
    (own p).map (fun s => (p ++ rest).extract s.1 s.2) = [p].filter fun p => !p.isEmpty := by
  cases p <;> simp [own, List.extract_eq_take_drop]

theorem extract_after (p cs : List Char) (c : Char) (i j : Nat) :
    (p ++ c :: cs).extract (i + (p.length + 1)) (j + (p.length + 1)) = cs.extract i j := by
  have hsize : j + (p.length + 1) - (i + (p.length + 1)) = j - i := by omega
  have hplace : i + (p.length + 1) = p.length + (i + 1) := by omega
  rw [List.extract_eq_take_drop, List.extract_eq_take_drop, hsize, hplace,
    List.drop_length_add_append, List.drop_succ_cons]

/-- Places moved on by some characters. -/
def shift (n : Nat) (s : Nat × Nat) : Nat × Nat := (s.1 + n, s.2 + n)

theorem places_of_free (hp : ∀ c ∈ p, isSeparator c = false) : Places p (own p) := by
  constructor
  · cases p <;> simp [own]
  · intro i j
    rw [mem_own, isName_iff_of_free hp]

theorem Places.append {spans : List (Nat × Nat)} (h : Places cs spans)
    (hp : ∀ c ∈ p, isSeparator c = false) (hc : isSeparator c = true) :
    Places (p ++ c :: cs) (own p ++ spans.map (shift (p.length + 1))) := by
  constructor
  · refine List.pairwise_append.mpr ⟨(places_of_free hp).apart, ?_, ?_⟩
    · refine h.apart.map _ fun s t hst => ?_
      simpa [shift] using hst
    · rintro ⟨i, j⟩ hown t ht
      obtain ⟨-, -, rfl⟩ := mem_own.mp hown
      obtain ⟨t', -, rfl⟩ := List.mem_map.mp ht
      simp only [shift]
      omega
  · intro i j
    rw [List.mem_append, mem_own, List.mem_map, isName_append_iff hp hc]
    refine or_congr_right ⟨?_, ?_⟩
    · rintro ⟨⟨i', j'⟩, hs, hij⟩
      cases hij
      exact ⟨i', j', rfl, rfl, (h.mem_iff i' j').mp hs⟩
    · rintro ⟨i', j', rfl, rfl, hname⟩
      exact ⟨(i', j'), (h.mem_iff i' j').mpr hname, rfl⟩

theorem exists_places (h : Parted cs ps) : ∃ spans, Places cs spans ∧
    ps.filter (fun p => !p.isEmpty) = spans.map fun s => cs.extract s.1 s.2 := by
  induction h with
  | @last p hp =>
    refine ⟨own p, places_of_free hp, ?_⟩
    simpa using (map_own p []).symm
  | @more p cs c ps hp hc h ih =>
    obtain ⟨spans, hplaces, htexts⟩ := ih
    refine ⟨own p ++ spans.map (shift (p.length + 1)), hplaces.append hp hc, ?_⟩
    rw [← List.singleton_append, List.filter_append, htexts, List.map_append, map_own,
      List.map_map]
    congr 1
    refine List.map_congr_left fun s _ => ?_
    exact (extract_after p cs c s.1 s.2).symm

theorem split_eq_places (list : String) : ∃ spans, Places list.toList spans ∧
    split list = spans.map fun s => String.ofList (list.toList.extract s.1 s.2) := by
  obtain ⟨spans, hplaces, htexts⟩ := exists_places (parted_pieces list.toList)
  refine ⟨spans, hplaces, ?_⟩
  rw [split, htexts, List.map_map]
  rfl

/-! ## Lists put together -/

theorem pieces_eq_splitOnP (cs : List Char) : pieces cs = cs.splitOnP isSeparator := by
  induction cs with
  | nil => rfl
  | cons c cs ih =>
    rw [pieces, ih, List.splitOnP_cons_eq_if_modifyHead]
    split
    · rfl
    · cases hpieces : cs.splitOnP isSeparator with
      | nil => exact absurd hpieces (List.splitOnP_ne_nil _ _)
      | cons p ps => rfl

theorem split_push_append (a b : String) (hc : isSeparator c = true) :
    split (a.push c ++ b) = split a ++ split b := by
  have hchars : (a.push c ++ b).toList = a.toList ++ c :: b.toList := by simp
  rw [split, split, split, hchars, pieces_eq_splitOnP, pieces_eq_splitOnP, pieces_eq_splitOnP,
    List.splitOnP_append_cons _ _ hc, List.filter_append, List.map_append]

end NameList
end MediaSession
