import Mathlib.Data.List.Forall2
import MediaSession.CodecList.Basic
import MediaSession.Proofs.Codec.Splitting

/-!
# MediaSession.Proofs.CodecList.Listing

What a list of names adds to a codec list: one canonical description for each name that stands
for a codec, in order, and nothing for the others.

* `Codec.CallsFor`: a name and the description that it calls for
* `forall₂_callsFor`: the names that stand for a codec, and what they add
* `rejected_listed`: no codec that a name stands for lacks a description
* `lists_compose`: the names of a list, two lists put together, and what a list adds
-/

namespace MediaSession

namespace Codec

/-- A name calls for the canonical description of its codec. -/
def CallsFor (name : String) (f : Format) : Prop := (ofName name).canonical? = some f

variable {name : String} {c : Codec}

theorem isOffered_of_mem_names : ∀ row ∈ names, row.1.isOffered = true := by
  decide +kernel

theorem isOffered_of_named? (h : named? name = some c) : c.isOffered = true := by
  obtain ⟨row, hrow, -, rfl⟩ := exists_row_of_named? h
  exact isOffered_of_mem_names row hrow

theorem ofName_of_named? (h : named? name = some c) : ofName name = c := by
  rw [ofName_eq, h]
  rfl

theorem forall₂_callsFor (tokens : List String) :
    List.Forall₂ CallsFor (tokens.filter fun name => ofName name ≠ .unknown)
      ((tokens.filterMap named?).filterMap canonical?) := by
  induction tokens with
  | nil => exact .nil
  | cons name tokens ih =>
    cases hnamed : named? name with
    | none =>
      have hunknown := ofName_eq_unknown_iff.mpr hnamed
      rw [List.filter_cons_of_neg (by simp [hunknown]), List.filterMap_cons_none hnamed]
      exact ih
    | some c =>
      have hknown : ofName name ≠ .unknown := by
        intro hunknown
        rw [ofName_eq_unknown_iff, hnamed] at hunknown
        cases hunknown
      obtain ⟨f, hf⟩ := Option.isSome_iff_exists.mp (isOffered_of_named? hnamed)
      have hcalls : CallsFor name f := by rw [CallsFor, ofName_of_named? hnamed, hf]
      rw [List.filter_cons_of_pos (by simpa using hknown), List.filterMap_cons_some hnamed,
        List.filterMap_cons_some hf]
      exact .cons hcalls ih

end Codec

namespace CodecList

open Codec NameList

variable {c : Char}

theorem rejected_append (cs ds : List Codec) : rejected (cs ++ ds) = rejected cs + rejected ds :=
  List.countP_append

theorem rejected_listed (list : String) : rejected (listed list) = 0 := by
  refine List.countP_eq_zero.mpr fun c hc => ?_
  obtain ⟨name, -, hnamed⟩ := List.mem_filterMap.mp hc
  simp [isOffered_of_named? hnamed]

theorem listed_push_append (a b : String) (hc : isSeparator c = true) :
    listed (a.push c ++ b) = listed a ++ listed b := by
  rw [listed, split_push_append a b hc, List.filterMap_append]
  rfl

theorem addTypes_append (l : CodecList) (cs ds : List Codec) :
    l.addTypes (cs ++ ds) = (l.addTypes cs).addTypes ds := by
  simp only [addTypes, List.filterMap_append, List.append_assoc]

theorem addList_push_append (l : CodecList) (a b : String) (hc : isSeparator c = true) :
    l.addList (a.push c ++ b) = (l.addList a).addList b := by
  rw [addList, listed_push_append a b hc, addTypes_append]
  rfl

theorem exists_added (l : CodecList) (list : String) : ∃ added,
    l.addList list = { l with entries := l.entries ++ added } ∧
      List.Forall₂ CallsFor ((split list).filter fun name => ofName name ≠ .unknown) added :=
  ⟨_, rfl, forall₂_callsFor (split list)⟩

/--
The names of a list are all longest stretches of it without a separator, in order. Two lists with
a separator between them add what the one adds and then what the other adds, and reject as many
codecs as both. Any list rejects none, and adds the canonical description for each of its names
that stands for a codec.
-/
theorem lists_compose :
    (∀ list : String, ∃ spans, Places list.toList spans ∧
      split list = spans.map fun s => String.ofList (list.toList.extract s.1 s.2)) ∧
    (∀ (l : CodecList) (a b : String) (c : Char), isSeparator c = true →
      l.addList (a.push c ++ b) = (l.addList a).addList b ∧
      rejected (listed (a.push c ++ b)) = rejected (listed a) + rejected (listed b)) ∧
    ∀ (l : CodecList) (list : String), rejected (listed list) = 0 ∧ ∃ added,
      l.addList list = { l with entries := l.entries ++ added } ∧
        List.Forall₂ CallsFor ((split list).filter fun name => ofName name ≠ .unknown) added := by
  refine ⟨split_eq_places, fun l a b c hc => ⟨l.addList_push_append a b hc, ?_⟩, ?_⟩
  · rw [listed_push_append a b hc, rejected_append]
  · intro l list
    exact ⟨rejected_listed list, l.exists_added list⟩

/-- Separators in a row at the seam, and a no-break space, which is none. -/
theorem lists_compose_seam :
    let l : CodecList := empty.addTypes [.speex]
    isSeparator ' ' = true ∧
      l.addList ("pcmu,".push ' ' ++ "\u00a0gsm nothing") =
        (l.addList "pcmu,").addList "\u00a0gsm nothing" ∧
      split "pcmu, \u00a0gsm nothing" = ["pcmu", "\u00a0gsm", "nothing"] := by
  intro l
  have hc : isSeparator ' ' = true := by decide
  obtain ⟨-, hcompose, -⟩ := lists_compose
  exact ⟨hc, (hcompose l "pcmu," "\u00a0gsm nothing" ' ' hc).1, by decide⟩

end CodecList
end MediaSession
