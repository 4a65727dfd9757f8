import Mathlib
import MediaSession.Codec.Names
import MediaSession.Proofs.Codec.Tables

/-!
# MediaSession.Proofs.Codec.Naming

What a name resolves to. A name in settings calls for the codec of the row that is left of it
once the blanks around it are cut off and its letters are made capitals.

* `Text.Trims`, `Text.trims_iff`: a text and what is left of it without the blanks at its ends
* `Spells`, `spells_iff`: a text and the name it calls for
* `spells_of_padded`: any case and any blanks around a name
* `names_resolve`: which codec a text gives, and which texts give none
-/

namespace MediaSession
namespace Text

variable {cs core before after : List Char} {c : Char}

/-- From the first to the last character that is not blank, if there is one. -/
structure Trims (cs core : List Char) : Prop where
  padded : ∃ before after, cs = before ++ core ++ after ∧ (∀ c ∈ before, isBlank c = true) ∧
    ∀ c ∈ after, isBlank c = true
  first : ∀ c rest, core = c :: rest → isBlank c = false
  last : ∀ c rest, core = rest ++ [c] → isBlank c = false

theorem trim_eq (cs : List Char) : trim cs = (cs.dropWhile isBlank).rdropWhile isBlank := rfl

theorem rdropWhile_append_of_blank (cs : List Char) (hafter : ∀ c ∈ after, isBlank c = true) :
    (cs ++ after).rdropWhile isBlank = cs.rdropWhile isBlank := by
  have hreverse : ∀ c ∈ after.reverse, isBlank c = true := by simpa using hafter
  rw [List.rdropWhile, List.reverse_append, List.dropWhile_append_of_pos hreverse]
  rfl

theorem trim_of_padded (hbefore : ∀ c ∈ before, isBlank c = true)
    (hafter : ∀ c ∈ after, isBlank c = true) : trim (before ++ core ++ after) = trim core := by
  rw [trim_eq, trim_eq, List.append_assoc, List.dropWhile_append_of_pos hbefore,
    List.dropWhile_append]
  split
  · rename_i hblank
    rw [List.isEmpty_iff.mp hblank, List.dropWhile_eq_nil_iff.mpr hafter]
  · exact rdropWhile_append_of_blank _ hafter

theorem trims_trim (cs : List Char) : Trims cs (trim cs) := by
  refine ⟨⟨cs.takeWhile isBlank, (cs.dropWhile isBlank).rtakeWhile isBlank, ?_, ?_, ?_⟩, ?_, ?_⟩
  · rw [List.append_assoc, trim_eq, List.rdropWhile_append_rtakeWhile,
      List.takeWhile_append_dropWhile]
  · intro c hc
    exact List.mem_takeWhile_imp hc
  · intro c hc
    exact List.mem_rtakeWhile_imp hc
  · intro c rest hfirst
    -- what is cut off at the end leaves the first character alone
    obtain ⟨cut, hcut⟩ := List.rdropWhile_prefix isBlank (cs.dropWhile isBlank)
    rw [← trim_eq, hfirst] at hcut
    have hhead := List.head?_dropWhile_not isBlank cs
    rw [← hcut] at hhead
    exact hhead
  · intro c rest hlast
    have hne : (cs.dropWhile isBlank).rdropWhile isBlank ≠ [] := by
      rw [← trim_eq, hlast]
      simp
    have hnot := List.rdropWhile_last_not isBlank _ hne
    simpa [← trim_eq, hlast] using hnot

theorem Trims.eq_trim (h : Trims cs core) : core = trim cs := by
  obtain ⟨⟨before, after, rfl, hbefore, hafter⟩, hfirst, hlast⟩ := h
  have hkept : core.dropWhile isBlank = core := by
    cases core with
    | nil => rfl
    | cons c rest => rw [List.dropWhile_cons_of_neg (by simp [hfirst c rest rfl])]
  rw [trim_of_padded hbefore hafter, trim_eq, hkept, eq_comm, List.rdropWhile_eq_self_iff]
  intro hne
  simp [hlast _ _ (List.dropLast_append_getLast hne).symm]

theorem trims_iff : Trims cs core ↔ core = trim cs := by
  refine ⟨Trims.eq_trim, ?_⟩
  rintro rfl
  exact trims_trim cs

theorem isLower_iff : c.isLower = true ↔ 97 ≤ c.toNat ∧ c.toNat ≤ 122 := by
  simp only [Char.isLower, Bool.and_eq_true, decide_eq_true_eq]
  exact Iff.rfl

theorem isBlank_of_isLower (h : c.isLower = true) : isBlank c = false := by
  obtain ⟨hlow, hhigh⟩ := isLower_iff.mp h
  have hranges : ∀ r ∈ blankRanges, r.2 < 97 ∨ 122 < r.1 := by decide
  refine Bool.eq_false_iff.mpr fun hblank => ?_
  obtain ⟨r, hr, hfrom, hto⟩ := CodeRanges.has_iff.mp hblank
  have hrange := hranges r hr
  omega

/-- Texts that differ in case at most are the same in capitals. -/
theorem upper_eq_of_sameFolded {a b : String} (h : sameFolded a b = true) :
    upper a.toList = upper b.toList := by
  have hfold := congrArg upper (sameFolded_iff.mp h)
  simpa only [fold, upper, List.map_map, Function.comp_def, Char.toUpper_toLower_eq_toUpper]
    using hfold

end Text

namespace Codec

open Text

variable {s name : String} {row : Codec × String} {c : Codec}

/-! ## The table -/

/-- The characters that names are made of: ASCII, no blank, no small letter. -/
def isNameChar (c : Char) : Bool := c.toUpper == c && !isBlank c && c.toNat < 128

theorem names_nodup : (names.map Prod.snd).Nodup := by
  decide +kernel

theorem all_isNameChar_of_mem_names : ∀ row ∈ names, row.2.toList.all isNameChar = true := by
  decide +kernel

theorem isNameChar_of_mem {x : Char} (hrow : row ∈ names) (hx : x ∈ row.2.toList) :
    x.toUpper = x ∧ isBlank x = false ∧ x.toNat < 128 := by
  have hchar := List.all_eq_true.mp (all_isNameChar_of_mem_names row hrow) x hx
  simpa [isNameChar, and_assoc] using hchar

theorem upper_of_mem_names (hrow : row ∈ names) : upper row.2.toList = row.2.toList := by
  have hcapitals : ∀ x ∈ row.2.toList, x.toUpper = id x :=
    fun x hx => (isNameChar_of_mem hrow hx).1
  rw [upper, List.map_congr_left hcapitals, List.map_id]

/-- What becomes a name in capitals has neither blanks nor foreign letters. -/
theorem plain_of_upper_eq {core : List Char} (hrow : row ∈ names)
    (hupper : upper core = row.2.toList) {x : Char} (hx : x ∈ core) :
    isBlank x = false ∧ x.toNat < 128 := by
  by_cases hlower : x.isLower = true
  · have hhigh := (isLower_iff.mp hlower).2
    exact ⟨isBlank_of_isLower hlower, by omega⟩
  · have hmem : x.toUpper ∈ upper core := List.mem_map_of_mem hx
    rw [Char.toUpper_eq_of_not_isLower hlower, hupper] at hmem
    exact (isNameChar_of_mem hrow hmem).2

/-! ## What a text calls for -/

/-- A text is a name but for blanks around it and small letters in it. -/
def Spells (s name : String) : Prop :=
  ∃ core, Trims s.toList core ∧ upper core = name.toList

theorem spells_iff : Spells s name ↔ nameKey s = name := by
  constructor
  · rintro ⟨core, htrims, hupper⟩
    rw [nameKey, ← htrims.eq_trim, hupper, String.ofList_toList]
  · rintro rfl
    exact ⟨trim s.toList, trims_trim s.toList, by rw [nameKey, String.toList_ofList]⟩

theorem eq_of_spells {other : Codec × String} (hrow : row ∈ names) (hother : other ∈ names)
    (hs : Spells s row.2) (hs' : Spells s other.2) : other = row := by
  have hname : other.2 = row.2 := (spells_iff.mp hs').symm.trans (spells_iff.mp hs)
  exact List.inj_on_of_nodup_map names_nodup hother hrow hname

theorem named?_of_spells (hrow : row ∈ names) (hs : Spells s row.2) : named? s = some row.1 := by
  have hfind := (find?_key_eq_some_iff names_nodup).mpr ⟨hrow, (spells_iff.mp hs).symm⟩
  rw [named?, hfind]
  rfl

theorem named?_eq_none_iff : named? s = none ↔ ∀ row ∈ names, ¬ Spells s row.2 := by
  simp only [named?, Option.map_eq_none_iff, List.find?_eq_none, beq_iff_eq, spells_iff,
    @eq_comm String (nameKey s)]

theorem ofName_of_spells (hrow : row ∈ names) (hs : Spells s row.2) : ofName s = row.1 := by
  rw [ofName_eq, named?_of_spells hrow hs]
  rfl

theorem spells_of_padded {before after : String} (hrow : row ∈ names)
    (hname : sameFolded name row.2 = true) (hbefore : ∀ x ∈ before.toList, isBlank x = true)
    (hafter : ∀ x ∈ after.toList, isBlank x = true) : Spells (before ++ name ++ after) row.2 := by
  have hupper : upper name.toList = row.2.toList := by
    rw [upper_eq_of_sameFolded hname, upper_of_mem_names hrow]
  refine ⟨name.toList, ⟨⟨before.toList, after.toList, by simp, hbefore, hafter⟩, ?_, ?_⟩, hupper⟩
  · intro x rest hfirst
    exact (plain_of_upper_eq hrow hupper (by simp [hfirst])).1
  · intro x rest hlast
    exact (plain_of_upper_eq hrow hupper (by simp [hlast])).1

theorem mem_names_of_canonicalName? (h : canonicalName? c = some name) : (c, name) ∈ names := by
  obtain ⟨row, hfind, rfl⟩ := Option.map_eq_some_iff.mp h
  have hcodec : row.1 = c := by simpa using List.find?_some hfind
  rw [← hcodec]
  exact List.mem_of_find?_eq_some hfind

/--
A text gives the codec of the first row for its key, which is the only row that it spells; it
gives `unknown` just when it spells none. Every name of the table gives its codec in any case and
with any blanks around it, the canonical name of a codec that codec, and a text with a character
beyond ASCII from its first to its last character that is not blank gives none.
-/
theorem names_resolve :
    (∀ s, ofName s =
      ((names.find? fun row => row.2 == nameKey s).map Prod.fst).getD .unknown) ∧
    (∀ s, ∀ row ∈ names, Spells s row.2 →
      ofName s = row.1 ∧ ∀ other ∈ names, Spells s other.2 → other = row) ∧
    (∀ s, ofName s = .unknown ↔ ∀ row ∈ names, ¬ Spells s row.2) ∧
    (∀ row ∈ names, ∀ before name after : String, sameFolded name row.2 = true →
      (∀ x ∈ before.toList, isBlank x = true) → (∀ x ∈ after.toList, isBlank x = true) →
      ofName (before ++ name ++ after) = row.1) ∧
    (∀ c name, canonicalName? c = some name → ofName name = c) ∧
    ∀ (s : String) (core : List Char), Trims s.toList core → (∃ x ∈ core, 128 ≤ x.toNat) →
      ofName s = .unknown := by
  refine ⟨ofName_eq, ?_, ?_, ?_, ?_, ?_⟩
  · intro s row hrow hs
    exact ⟨ofName_of_spells hrow hs, fun other hother hs' => eq_of_spells hrow hother hs hs'⟩
  · intro s
    rw [ofName_eq_unknown_iff, named?_eq_none_iff]
  · intro row hrow before name after hname hbefore hafter
    exact ofName_of_spells hrow (spells_of_padded hrow hname hbefore hafter)
  · intro c name hname
    have hrow := mem_names_of_canonicalName? hname
    have hspells : Spells ("" ++ name ++ "") name :=
      spells_of_padded hrow (sameFolded_refl name) (by simp) (by simp)
    simpa using ofName_of_spells hrow hspells
  · rintro s core htrims ⟨x, hx, hforeign⟩
    rw [ofName_eq_unknown_iff, named?_eq_none_iff]
    rintro row hrow ⟨core', htrims', hupper⟩
    rw [htrims'.eq_trim, ← htrims.eq_trim] at hupper
    have hplain := (plain_of_upper_eq hrow hupper hx).2
    omega

/-- A no-break space around a name is cut off, and one inside it is not. -/
theorem names_resolve_padded :
    ofName "\u00a0G711u\t" = .pcmu ∧ ofName "speex\u00a0wb" = .unknown := by
  obtain ⟨-, -, -, hpadded, -, hforeign⟩ := names_resolve
  have hrow : (Codec.pcmu, "G711U") ∈ names := by decide
  have hbefore : ∀ x ∈ "\u00a0".toList, isBlank x = true := by
    simp [isBlank, CodeRanges.has, blankRanges]
  have hafter : ∀ x ∈ "\t".toList, isBlank x = true := by
    simp [isBlank, CodeRanges.has, blankRanges]
  have htrims : Trims "speex\u00a0wb".toList "speex\u00a0wb".toList := trims_iff.mpr (by rfl)
  have hinside : ∃ x ∈ "speex\u00a0wb".toList, 128 ≤ x.toNat := by simp
  constructor
  · exact hpadded _ hrow "\u00a0" "G711u" "\t" (by decide) hbefore hafter
  · exact hforeign "speex\u00a0wb" _ htrims hinside

end Codec
end MediaSession
