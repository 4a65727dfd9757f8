import MediaSession.Proofs.CodecList.Allotment

/-!
# MediaSession.Proofs.CodecList.Binding

The walk that binds payload types, proved to come to the allotment. While it goes, the walk looks
payload types up among entries that it has changed itself. It never meets its own marks, since it
only looks beyond the payload type it gave out last: `freeFrom_bind`.

* `bindFrom_eq`: the loop invariant. From any entry on, the walk assigns what is free beyond the
  group it is in.
* `bind_eq_allotment`: the whole walk
-/

namespace MediaSession
namespace Allotment

open Binding

/-- The free payload types from `n` on. -/
def freeFrom (fs : List Format) (n : Nat) : List Nat :=
  (List.range' n (128 - n)).filter fun k => !isHeld fs k

theorem nextFree?_eq_head? (fs : List Format) (n : Nat) :
    nextFree? fs n = (freeFrom fs n).head? := by
  rw [freeFrom, List.head?_filter, nextFree?]

theorem free_eq_freeFrom (fs : List Format) : free fs = freeFrom fs 96 := by
  unfold free freeFrom
  apply List.filter_congr
  intro k _
  rw [Bool.eq_iff_iff]
  simp [isHeld]

theorem lt_of_mem_freeFrom {fs : List Format} {n k : Nat} (h : k ∈ freeFrom fs n) : k < 128 := by
  have hk := (List.mem_filter.mp h).1
  rw [List.mem_range'_1] at hk
  omega

/-- Beyond the first free payload type lie the others. -/
theorem freeFrom_succ {fs : List Format} {n k : Nat} {ks : List Nat}
    (h : freeFrom fs n = k :: ks) : freeFrom fs (k + 1) = ks := by
  obtain ⟨before, after, hrange, -, -, hafter⟩ := List.filter_eq_cons_iff.mp h
  obtain ⟨m, hm, -, hcons⟩ := List.range'_eq_append_iff.mp hrange
  obtain ⟨hk, hpos, htail⟩ := List.range'_eq_cons_iff.mp hcons.symm
  rw [freeFrom, ← hafter, htail]
  congr 2
  omega

/-- Giving out a payload type changes nothing about what is free beyond it. -/
theorem freeFrom_bind (passed fs : List Format) {f : Format} (hf : f.isAssigned = false)
    {k n : Nat} (hk : k < n) :
    freeFrom (passed ++ f.withPayloadType (Int32.ofNat k) :: fs) n =
      freeFrom (passed ++ f :: fs) n := by
  apply List.filter_congr
  intro j hj
  rw [List.mem_range'_1] at hj
  have hj' : (Int32.ofNat j).toInt = j := Int32.toInt_ofNat_of_lt (by omega)
  have hnew : (Int32.ofNat k == Int32.ofNat j) = false := by
    rw [beq_eq_false_iff_ne]
    intro h
    have hint := congrArg Int32.toInt h
    rw [hj', Int32.toInt_ofNat_of_lt (by omega)] at hint
    omega
  have hold : (f.payloadType == Int32.ofNat j) = false := by
    have hunassigned : f.payloadType = Payload.unassigned := by
      simpa [Format.isAssigned] using hf
    rw [hunassigned, beq_eq_false_iff_ne]
    intro h
    have hint := congrArg Int32.toInt h
    have hminus : Payload.unassigned.toInt = -1 := by decide
    rw [hj'] at hint
    omega
  simp [isHeld, Format.withPayloadType, hnew, hold]

/-- What is reported of entries that became others, when some were bound before them. -/
def report (bound : Nat) (fs after : List Format) : Except ListError Nat :=
  if unassigned after = [] then .ok (bound + (unassigned fs).length)
  else .error (.payloadTypesExhausted (unassigned after).length)

theorem report_cons_of_assigned {f : Format} (hf : f.isAssigned = true) (bound : Nat)
    (fs after : List Format) : report bound (f :: fs) (f :: after) = report bound fs after := by
  rw [report, report, unassigned_cons_of_assigned hf, unassigned_cons_of_assigned hf]

theorem report_cons_of_bound {f g : Format} (hf : f.isAssigned = false)
    (hg : g.isAssigned = true) (bound : Nat) (fs after : List Format) :
    report bound (f :: fs) (g :: after) = report (bound + 1) fs after := by
  rw [report, report, unassigned_cons_of_not hf, unassigned_cons_of_assigned hg,
    List.length_cons, Nat.add_right_comm, Nat.add_assoc]

/-- Where the walk stands at an entry to be bound, it either gives it a payload type or stops. -/
theorem bindFrom_cons_of_not {f : Format} (hf : f.isAssigned = false) (passed fs : List Format)
    (bound : Nat) (group : Option NameGroup) :
    bindFrom passed bound group (f :: fs) =
      match groupFor? (passed ++ f :: fs) group f.encodingName with
      | none => (.error (.payloadTypesExhausted (unbound (f :: fs))), passed ++ f :: fs)
      | some g =>
        bindFrom (passed ++ [f.withPayloadType (Int32.ofNat g.payloadType)]) (bound + 1) (some g)
          fs := by
  have hnot : ¬ f.isAssigned = true := by simp [hf]
  exact if_neg hnot

theorem groupFor?_of_inGroup {entries : List Format} {group : Option NameGroup} {g : NameGroup}
    {f : Format} (h : group.filter (inGroup · f) = some g) :
    groupFor? entries group f.encodingName = some g := by
  have hsame : (group.filter fun g => Text.sameFolded g.name f.encodingName) = some g := h
  rw [groupFor?, hsame]

theorem groupFor?_of_new {entries : List Format} {group : Option NameGroup} {f : Format}
    (h : group.filter (inGroup · f) = none) :
    groupFor? entries group f.encodingName =
      (freeFrom entries (start group)).head?.map (NameGroup.mk f.encodingName) := by
  have hnone : (group.filter fun g => Text.sameFolded g.name f.encodingName) = none := h
  rw [← nextFree?_eq_head?, groupFor?, hnone]

/-- The loop invariant, by induction on the entries that are left. -/
theorem bindFrom_eq (fs : List Format) :
    ∀ (passed : List Format) (bound : Nat) (group : Option NameGroup),
      (∀ g ∈ group, g.payloadType < 128) →
      bindFrom passed bound group fs =
        (let after := refill fs
          (assign group (freeFrom (passed ++ fs) (start group)) (unassigned fs))
        (report bound fs after, passed ++ after)) := by
  induction fs with
  | nil => intro passed bound group _; simp [bindFrom, refill, report]
  | cons f fs ih =>
    intro passed bound group hgroup
    cases hf : f.isAssigned with
    | true =>
      rw [bindFrom, if_pos hf, ih _ _ _ hgroup]
      simp only [unassigned_cons_of_assigned hf, refill_cons_of_assigned hf,
        report_cons_of_assigned hf, List.append_assoc, List.singleton_append]
    | false =>
      -- once bound, the entry is passed, and what is free beyond its payload type is as before
      have hnext : ∀ g : NameGroup, g.payloadType < 128 →
          bindFrom (passed ++ [f.withPayloadType (Int32.ofNat g.payloadType)]) (bound + 1) (some g)
              fs =
            (let after := f.withPayloadType (Int32.ofNat g.payloadType) ::
              refill fs (assign (some g) (freeFrom (passed ++ f :: fs) (g.payloadType + 1))
                (unassigned fs))
            (report bound (f :: fs) after, passed ++ after)) := by
        intro g hg
        rw [ih _ _ _ (by simpa using hg)]
        simp only [report_cons_of_bound hf (isAssigned_withPayloadType f hg), List.append_assoc,
          List.singleton_append, start, freeFrom_bind passed fs hf (Nat.lt_succ_self _)]
      rw [bindFrom_cons_of_not hf, unassigned_cons_of_not hf]
      cases hsame : group.filter (inGroup · f) with
      | some g =>
        obtain ⟨hg, -⟩ := Option.filter_eq_some_iff.mp hsame
        rw [groupFor?_of_inGroup hsame, assign_cons_of_inGroup hsame, refill_cons_of_not hf, hg]
        exact hnext g (hgroup g hg)
      | none =>
        rw [groupFor?_of_new hsame]
        cases hfree : freeFrom (passed ++ f :: fs) (start group) with
        | nil =>
          rw [assign_nil_of_new hsame, refill_cons_of_not hf, refill_unassigned]
          simp [report, unbound_eq_length, unassigned_cons_of_not hf]
        | cons k ks =>
          have hk : k < 128 := lt_of_mem_freeFrom (hfree ▸ List.mem_cons_self)
          rw [assign_cons_of_new hsame, refill_cons_of_not hf, ← freeFrom_succ hfree]
          exact hnext ⟨f.encodingName, k⟩ hk

theorem forall₂_bound_unassigned (fs : List Format) :
    List.Forall₂ Bound (unassigned fs) (allot (runs fs) (free fs)) := by
  have h := forall₂_bound_allot (free fs) (isAssigned_of_mem_runs fs)
  rwa [runs, List.flatten_splitBy, ← runs] at h

theorem unassigned_allotted (fs : List Format) :
    unassigned (allotted fs) = ((runs fs).drop (free fs).length).flatten := by
  have hfree : ∀ k ∈ free fs, k < 128 := fun k hk => by
    rw [free_eq_freeFrom] at hk
    exact lt_of_mem_freeFrom hk
  rw [allotted, unassigned_refill (forall₂_bound_unassigned fs).length_eq.symm,
    unassigned_allot (isAssigned_of_mem_runs fs) hfree]

theorem forall₂_bound_allotted (fs : List Format) : List.Forall₂ Bound fs (allotted fs) :=
  forall₂_bound_refill (forall₂_bound_unassigned fs)

/-- The walk from the first entry, with nothing bound before. -/
theorem bindFrom_nil_none (fs : List Format) :
    bindFrom [] 0 none fs = (report 0 fs (allotted fs), allotted fs) := by
  rw [bindFrom_eq _ _ _ _ (by simp)]
  simp only [List.nil_append, start, ← free_eq_freeFrom, assign_eq_allot]
  rfl

/-- All entries are bound exactly if there is a payload type for each run. -/
theorem report_allotted (fs : List Format) :
    report 0 fs (allotted fs) =
      if (runs fs).length ≤ (free fs).length then .ok (unassigned fs).length
      else .error (.payloadTypesExhausted (unassigned (allotted fs)).length) := by
  have hall : unassigned (allotted fs) = [] ↔ (runs fs).length ≤ (free fs).length := by
    rw [unassigned_allotted, flatten_drop_runs_eq_nil_iff]
  rw [report, Nat.zero_add]
  exact if_congr hall rfl rfl

end Allotment

namespace CodecList

open Allotment

theorem bind_eq_report (l : CodecList) :
    l.bind =
      (report 0 l.entries (allotted l.entries), { l with entries := allotted l.entries }) := by
  rw [bind, bindFrom_nil_none]

/--
Binding comes to the allotment: the entries without payload type, cut into runs of one name, get
the free payload types run by run. If there are too few, the runs that come too late keep none,
and their entries are counted. Nothing else of the list changes.
-/
theorem bind_eq_allotment (l : CodecList) :
    let after := refill l.entries (allot (runs l.entries) (free l.entries))
    l.bind =
      (if (runs l.entries).length ≤ (free l.entries).length then
          .ok (unassigned l.entries).length
        else .error (.payloadTypesExhausted (unassigned after).length),
        { l with entries := after }) ∧
      unassigned after = ((runs l.entries).drop (free l.entries).length).flatten ∧
      List.Forall₂ Bound l.entries after := by
  intro after
  refine ⟨?_, unassigned_allotted l.entries, forall₂_bound_allotted l.entries⟩
  rw [bind_eq_report, report_allotted]
  rfl

end CodecList
end MediaSession
