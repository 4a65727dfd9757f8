import Mathlib.Data.List.Forall2
import MediaSession.Proofs.CodecList.Adoption

/-!
# MediaSession.Proofs.CodecList.Definitions

Adoption by classes of one definition. Remote descriptions of different definitions never meet in
an entry, so only those of one class count for it, and of these the last.

* `Format.sameDefinition_equivalence`: the classes
* `Takes`, `forall₂_takes_adoptAll`: what an entry takes from a list of remote descriptions
* `adopt_comm`: remote descriptions of different classes may change places
* `last_of_definition_counts`: all of it, for every list
-/

namespace MediaSession

theorem Format.sameDefinition_equivalence :
    Equivalence fun f g : Format => f.sameDefinition g = true where
  refl := sameDefinition_refl
  symm := by
    intro f g h
    exact sameDefinition_iff.mpr (sameDefinition_iff.mp h).symm
  trans := by
    intro f g k hfg hgk
    rw [sameDefinition_congr hfg]
    exact hgk

namespace CodecList

/-- An entry takes the payload type of the last remote description with its definition. -/
inductive Takes (remotes : List Format) (f : Format) : Format → Prop where
  | nothing (hnone : ∀ r ∈ remotes, f.sameDefinition r = false) : Takes remotes f f
  | last {before after : List Format} {r : Format} (hsplit : remotes = before ++ r :: after)
      (hr : f.sameDefinition r = true) (hafter : ∀ s ∈ after, f.sameDefinition s = false) :
      Takes remotes f (f.withPayloadType r.payloadType)

variable {l : CodecList} {remotes : List Format} {f g r s : Format}

/-! ## One entry -/

theorem takes_adopted (remotes : List Format) (f : Format) :
    Takes remotes f (f.withPayloadType (adopted remotes f)) := by
  rw [adopted]
  cases hr : counterpart? remotes f with
  | none =>
    refine .nothing fun r hmem => ?_
    have hnot := List.find?_eq_none.mp hr r (List.mem_reverse.mpr hmem)
    simpa using hnot
  | some r =>
    obtain ⟨hsame, after, before, hsplit, hafter⟩ := List.find?_eq_some_iff_append.mp hr
    have hremotes : remotes = before.reverse ++ r :: after.reverse := by
      rw [← List.reverse_reverse remotes, hsplit]
      simp
    refine .last hremotes hsame fun s hs => ?_
    simpa using hafter s (List.mem_reverse.mp hs)

theorem counterpart?_isSome_iff :
    (counterpart? remotes f).isSome = true ↔ ∃ r ∈ remotes, f.sameDefinition r = true := by
  simp [counterpart?]

/-- Entries of one class take the same, if there is something to take. -/
theorem adopted_congr (hsame : f.sameDefinition g = true)
    (hsome : ∃ r ∈ remotes, f.sameDefinition r = true) :
    adopted remotes f = adopted remotes g := by
  have hcounterpart : counterpart? remotes g = counterpart? remotes f := by
    rw [counterpart?, counterpart?, Format.sameDefinition_congr hsame]
  obtain ⟨r, hr⟩ := Option.isSome_iff_exists.mp (counterpart?_isSome_iff.mpr hsome)
  rw [adopted, adopted, hcounterpart, hr]
  rfl

theorem adopted_withPayloadType_adopted (remotes : List Format) (f : Format) :
    adopted remotes (f.withPayloadType (adopted remotes f)) = adopted remotes f := by
  have hcounterpart : counterpart? remotes (f.withPayloadType (adopted remotes f)) =
      counterpart? remotes f := rfl
  rw [adopted, hcounterpart]
  cases hr : counterpart? remotes f with
  | none => rfl
  | some r =>
    rw [adopted, hr]
    rfl

/-- No entry is of two classes. -/
theorem adoptInto_comm (hne : r.sameDefinition s = false) (f : Format) :
    adoptInto s (adoptInto r f) = adoptInto r (adoptInto s f) := by
  cases hr : f.sameDefinition r with
  | true =>
    have hs : f.sameDefinition s = false := by
      rw [Format.sameDefinition_congr hr]
      exact hne
    simp [adoptInto, hr, hs]
  | false => cases hs : f.sameDefinition s <;> simp [adoptInto, hr, hs]

/-! ## A list -/

theorem forall₂_takes_adoptAll (l : CodecList) (remotes : List Format) :
    List.Forall₂ (Takes remotes) l.entries (l.adoptAll remotes).entries := by
  rw [adoptAll_eq, List.forall₂_map_right_iff, List.forall₂_same]
  intro f _
  exact takes_adopted remotes f

theorem payloadType_eq_of_mem_adoptAll (hf : f ∈ (l.adoptAll remotes).entries)
    (hg : g ∈ (l.adoptAll remotes).entries) (hsame : f.sameDefinition g = true)
    (hsome : ∃ r ∈ remotes, f.sameDefinition r = true) : f.payloadType = g.payloadType := by
  rw [adoptAll_eq] at hf hg
  obtain ⟨f, -, rfl⟩ := List.mem_map.mp hf
  obtain ⟨g, -, rfl⟩ := List.mem_map.mp hg
  exact adopted_congr hsame hsome

theorem adoptAll_adoptAll (l : CodecList) (remotes : List Format) :
    (l.adoptAll remotes).adoptAll remotes = l.adoptAll remotes := by
  simp [adoptAll_eq, adopted_withPayloadType_adopted]

theorem adopt_comm (hne : r.sameDefinition s = false) (l : CodecList) :
    (l.adopt r).adopt s = (l.adopt s).adopt r := by
  simp [adopt, adoptInto_comm hne]

theorem adoptAll_swap (hne : r.sameDefinition s = false) (l : CodecList)
    (before after : List Format) :
    l.adoptAll (before ++ r :: s :: after) = l.adoptAll (before ++ s :: r :: after) := by
  simp only [adoptAll, List.foldl_append, List.foldl_cons]
  rw [adopt_comm hne]

/--
Having the same definition is an equivalence for which identity and payload type do not count.
Through an adoption from many remote descriptions each entry takes the payload type of the last
one of its class, and nothing else changes. So entries of a class that is offered end with one
payload type, adopting again changes nothing, and neighbours of different classes may change
places.
-/
theorem last_of_definition_counts :
    (Equivalence fun f g : Format => f.sameDefinition g = true) ∧
    (∀ (f g : Format) (c c' : Codec) (pt pt' : Int32),
      Format.sameDefinition { f with codec := c, payloadType := pt }
        { g with codec := c', payloadType := pt' } = f.sameDefinition g) ∧
    ∀ (l : CodecList) (remotes : List Format),
      ((l.adoptAll remotes).limit = l.limit ∧
        List.Forall₂ (Takes remotes) l.entries (l.adoptAll remotes).entries) ∧
      (∀ f ∈ (l.adoptAll remotes).entries, ∀ g ∈ (l.adoptAll remotes).entries,
        f.sameDefinition g = true → (∃ r ∈ remotes, f.sameDefinition r = true) →
          f.payloadType = g.payloadType) ∧
      (l.adoptAll remotes).adoptAll remotes = l.adoptAll remotes ∧
      ∀ (before after : List Format) (r s : Format), remotes = before ++ r :: s :: after →
        r.sameDefinition s = false →
          l.adoptAll remotes = l.adoptAll (before ++ s :: r :: after) := by
  refine ⟨Format.sameDefinition_equivalence, fun _ _ _ _ _ _ => rfl, ?_⟩
  intro l remotes
  refine ⟨⟨?_, l.forall₂_takes_adoptAll remotes⟩, ?_, l.adoptAll_adoptAll remotes, ?_⟩
  · rw [adoptAll_eq]
  · intro f hf g hg hsame hsome
    exact payloadType_eq_of_mem_adoptAll hf hg hsame hsome
  · intro before after r s hremotes hne
    rw [hremotes]
    exact adoptAll_swap hne l before after

/-- Both speex entries take the second offer for them, wherever the offer for PCMU stands. -/
theorem last_of_definition_counts_speex :
    let l := empty.addTypes [.speex, .pcmu, .speex]
    let first := Canonical.audio .unknown 101 "speex" 8000 20000 "" .low .low
    let second := Canonical.audio .unknown 102 "SPEEX" 8000 20000 "" .low .low
    let other := Canonical.audio .unknown 8 "PCMU" 8000 20000 "" .low .low
    second.sameDefinition other = false ∧
      (l.adoptAll [first, second, other]).entries.map Format.payloadType = [102, 8, 102] ∧
      l.adoptAll [first, second, other] = l.adoptAll [first, other, second] := by
  intro l first second other
  have hne : second.sameDefinition other = false := by decide
  obtain ⟨-, -, hlists⟩ := last_of_definition_counts
  obtain ⟨-, -, -, hswap⟩ := hlists l [first, second, other]
  exact ⟨hne, by decide, hswap [first] [] second other rfl hne⟩

end CodecList
end MediaSession
