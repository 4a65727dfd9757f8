import MediaSession.Proofs.CodecList.Binding

/-!
# MediaSession.Proofs.CodecList.Rebinding

Binding a list that has just been bound. Either the first binding left no entry without payload
type, or it gave out all payload types there are; both ways nothing is left to do for a second one,
although it begins with no group and at the start of the range again.

* `free_allotted_eq_nil`: a binding with too few payload types uses up all of them
* `allotted_allotted`: the allotment of an allotment
* `bind_bind`: binding twice
-/

namespace MediaSession
namespace Allotment

theorem mem_refill_of_isAssigned {fs : List Format} {f : Format} (hf : f ∈ fs)
    (hassigned : f.isAssigned = true) (gs : List Format) : f ∈ refill fs gs := by
  induction fs generalizing gs with
  | nil => cases hf
  | cons e fs ih =>
    rcases List.mem_cons.mp hf with rfl | hf
    · rw [refill_cons_of_assigned hassigned]
      exact List.mem_cons_self
    · simp only [refill]
      split
      · exact List.mem_cons_of_mem e (ih hf gs)
      · exact List.mem_cons_of_mem _ (ih hf gs.tail)

/-- Where there are enough places everything is put in. -/
theorem mem_refill_of_mem {fs gs : List Format} (hlen : gs.length ≤ (unassigned fs).length)
    {g : Format} (hg : g ∈ gs) : g ∈ refill fs gs := by
  induction fs generalizing gs with
  | nil =>
    obtain rfl : gs = [] := List.eq_nil_of_length_eq_zero (Nat.le_zero.mp hlen)
    cases hg
  | cons f fs ih =>
    cases hf : f.isAssigned with
    | true =>
      rw [unassigned_cons_of_assigned hf] at hlen
      rw [refill_cons_of_assigned hf]
      exact List.mem_cons_of_mem f (ih hlen hg)
    | false =>
      cases gs with
      | nil => cases hg
      | cons g' gs =>
        rw [unassigned_cons_of_not hf] at hlen
        rw [refill_cons_of_not hf]
        rcases List.mem_cons.mp hg with rfl | hg
        · exact List.mem_cons_self
        · exact List.mem_cons_of_mem g' (ih (Nat.le_of_succ_le_succ hlen) hg)

/-- With no more payload types than runs each of them is given to some entry. -/
theorem exists_mem_allot {rs : List (List Format)} {ks : List Nat} (hrs : ∀ run ∈ rs, run ≠ [])
    (hlen : ks.length ≤ rs.length) {k : Nat} (hk : k ∈ ks) :
    ∃ g ∈ allot rs ks, g.payloadType = Int32.ofNat k := by
  induction rs generalizing ks with
  | nil =>
    obtain rfl : ks = [] := List.eq_nil_of_length_eq_zero (Nat.le_zero.mp hlen)
    cases hk
  | cons run rs ih =>
    cases ks with
    | nil => cases hk
    | cons j ks =>
      simp only [allot, List.mem_append]
      rcases List.mem_cons.mp hk with rfl | hk
      · obtain ⟨f, hf⟩ := List.exists_mem_of_ne_nil run (hrs run List.mem_cons_self)
        exact ⟨_, .inl (List.mem_map_of_mem hf), rfl⟩
      · have hrest : ∀ run ∈ rs, run ≠ [] := fun run h => hrs run (List.mem_cons_of_mem _ h)
        obtain ⟨g, hg, hpt⟩ := ih hrest (Nat.le_of_succ_le_succ hlen) hk
        exact ⟨g, .inr hg, hpt⟩

theorem allot_nil (rs : List (List Format)) : allot rs [] = rs.flatten := by
  cases rs <;> rfl

theorem isAssigned_of_payloadType_eq {f : Format} {k : Nat} (hk : k < 128)
    (hf : f.payloadType = Int32.ofNat k) : f.isAssigned = true := by
  have hassigned := isAssigned_withPayloadType f hk
  rw [← hf] at hassigned
  exact hassigned

theorem free_allotted_eq_nil {fs : List Format} (hfew : (free fs).length ≤ (runs fs).length) :
    free (allotted fs) = [] := by
  have hruns : ∀ run ∈ runs fs, run ≠ [] := fun run h => List.ne_nil_of_mem_splitBy h
  have hplaces : (allot (runs fs) (free fs)).length ≤ (unassigned fs).length :=
    (forall₂_bound_unassigned fs).length_eq.ge
  rw [free, List.filter_eq_nil_iff]
  intro k hrange hfree
  have hnot : ∀ f ∈ allotted fs, f.payloadType ≠ Int32.ofNat k := of_decide_eq_true hfree
  by_cases hk : k ∈ free fs
  · -- a payload type that was free went to the run of its place
    obtain ⟨g, hg, hpt⟩ := exists_mem_allot hruns hfew hk
    exact hnot g (mem_refill_of_mem hplaces hg) hpt
  · -- any other was held before, and still is
    have hheld : ∃ f ∈ fs, f.payloadType = Int32.ofNat k := by
      by_contra hnone
      push Not at hnone
      exact hk (List.mem_filter.mpr ⟨hrange, decide_eq_true hnone⟩)
    obtain ⟨f, hf, hpt⟩ := hheld
    have hlt : k < 128 := by
      rw [List.mem_range'_1] at hrange
      omega
    exact hnot f (mem_refill_of_isAssigned hf (isAssigned_of_payloadType_eq hlt hpt) _) hpt

/-- What was allotted once is left as it is by a second allotment. -/
theorem allotted_allotted (fs : List Format) : allotted (allotted fs) = allotted fs := by
  have hkept : allot (runs (allotted fs)) (free (allotted fs)) = unassigned (allotted fs) := by
    rcases Nat.lt_or_ge (free fs).length (runs fs).length with hfew | henough
    · rw [free_allotted_eq_nil (Nat.le_of_lt hfew), allot_nil, runs, List.flatten_splitBy]
    · have hnone : unassigned (allotted fs) = [] := by
        rw [unassigned_allotted, flatten_drop_runs_eq_nil_iff]
        exact henough
      rw [runs, hnone]
      rfl
  conv_lhs => rw [allotted]
  rw [hkept, refill_unassigned]

end Allotment

namespace CodecList

open Allotment

/--
A second binding changes nothing. It binds no entry where the first one succeeded, and fails for
the same entries where the first one failed.
-/
theorem bind_bind (l : CodecList) : l.bind.2.bind = (l.bind.1.map fun _ => 0, l.bind.2) := by
  rw [bind_eq_report, bind_eq_report]
  simp only [allotted_allotted, Prod.mk.injEq, and_true]
  unfold report
  split
  · rename_i hnone
    rw [hnone]
    rfl
  · rfl

end CodecList
end MediaSession
