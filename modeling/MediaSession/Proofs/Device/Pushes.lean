import Mathlib.Data.Finset.Sort
import MediaSession.Proofs.Device.History

/-!
# MediaSession.Proofs.Device.Pushes

What a list of pushes amounts to, the earliest push first: for each time the frame pushed last, and
of the times the largest. A history pushed to in bounds holds just that.

* `Pushes.lastAt?`, `Pushes.newestTimes`: the map, and the times that are kept
* `Pushes.total`: all pushes, and nothing given up
* `Pushes.keep_total`: the newest frames of all pushes are the newest times with their last frames
-/

namespace MediaSession

/-- Frames with their times, in the order in which they are pushed. -/
abbrev Pushes (β : Type) := List (Nat × β)

namespace Pushes

variable {β : Type}

/-- The frame pushed last for a time. -/
def lastAt? (ps : Pushes β) (t : Nat) : Option β := ps.reverse.lookup t

/-- The `n` largest times, each once and in ascending order. -/
def newestTimes (n : Nat) (ps : Pushes β) : List Nat :=
  let times := (ps.map Prod.fst).toFinset.sort (· ≤ ·)
  times.drop (times.length - n)

/-- All pushes in a history without bounds. -/
def total (ps : Pushes β) : History β := ps.foldl (fun h p => h.insert p.1 p.2) []

/-! ## The frame pushed last -/

theorem lastAt?_append_singleton (ps : Pushes β) (t u : Nat) (f : β) :
    lastAt? (ps ++ [(u, f)]) t = if t = u then some f else lastAt? ps t := by
  simp only [lastAt?, List.reverse_append, List.reverse_singleton, List.singleton_append,
    List.lookup_cons]
  by_cases h : t = u
  · simp [h]
  · rw [beq_false_of_ne h, if_neg h]

theorem lastAt?_append (ps qs : Pushes β) (t : Nat) :
    lastAt? (ps ++ qs) t = (lastAt? qs t).or (lastAt? ps t) := by
  rw [lastAt?, List.reverse_append, List.lookup_append]
  rfl

theorem mem_times_iff (ps : Pushes β) (t : Nat) :
    t ∈ ps.map Prod.fst ↔ ∃ f, lastAt? ps t = some f := by
  rw [← Option.isSome_iff_exists, lastAt?, List.lookup_isSome_iff]
  simp

/-! ## All pushes -/

theorem total_append_singleton (ps : Pushes β) (p : Nat × β) :
    total (ps ++ [p]) = (total ps).insert p.1 p.2 := by
  simp [total]

theorem ascending_total (ps : Pushes β) : (total ps).Ascending := by
  induction ps using List.reverseRecOn with
  | nil => exact List.Pairwise.nil
  | append_singleton ps p ih =>
    rw [total_append_singleton]
    exact History.ascending_insert ih p.1 p.2

theorem mem_total (ps : Pushes β) (t : Nat) (f : β) :
    (t, f) ∈ total ps ↔ lastAt? ps t = some f := by
  induction ps using List.reverseRecOn with
  | nil => simp [total, lastAt?]
  | append_singleton ps p ih =>
    obtain ⟨u, g⟩ := p
    rw [total_append_singleton, History.mem_insert (ascending_total ps), ih,
      lastAt?_append_singleton]
    by_cases h : t = u
    · simp [h, eq_comm]
    · simp [h]

theorem times_total (ps : Pushes β) :
    (total ps).times = (ps.map Prod.fst).toFinset.sort (· ≤ ·) := by
  have hlt : (total ps).times.Pairwise (· < ·) := List.pairwise_map.mpr (ascending_total ps)
  have hmem : (total ps).times.toFinset = (ps.map Prod.fst).toFinset := by
    ext t
    rw [List.mem_toFinset, List.mem_toFinset, mem_times_iff, History.times, List.mem_map]
    constructor
    · rintro ⟨e, he, rfl⟩
      exact ⟨e.2, (mem_total ps e.1 e.2).mp he⟩
    · rintro ⟨f, hf⟩
      exact ⟨(t, f), (mem_total ps t f).mpr hf, rfl⟩
  rw [← hmem, (List.toFinset_sort (· ≤ ·) (hlt.imp Nat.ne_of_lt)).mpr (hlt.imp Nat.le_of_lt)]

/-! ## The newest frames -/

theorem times_keep_total (n : Nat) (ps : Pushes β) :
    (History.keep n (total ps)).times = newestTimes n ps := by
  rw [newestTimes, ← times_total, History.times, History.keep, List.map_drop, History.times,
    List.length_map]

theorem keep_total (n : Nat) (ps : Pushes β) :
    (History.keep n (total ps)).map (fun e => (e.1, some e.2)) =
      (newestTimes n ps).map fun t => (t, lastAt? ps t) := by
  rw [← times_keep_total, History.times, List.map_map]
  apply List.map_congr_left
  intro e he
  have hlast := (mem_total ps e.1 e.2).mp ((History.keep_sublist n _).subset he)
  simp [hlast]

/-- Pushing with bounds gives what is kept of all pushes in the end. -/
theorem push_keep_total (n : Nat) (ps : Pushes β) (t : Nat) (f : β) :
    (History.keep n (total ps)).push n t f = History.keep n (total (ps ++ [(t, f)])) := by
  rw [History.push, History.keep_insert_keep (ascending_total ps), total_append_singleton]

/-! ## Order of pushing -/

theorem lastAt?_eq_some_iff_mem {ps : Pushes β} (hnodup : (ps.map Prod.fst).Nodup) (t : Nat)
    (f : β) : lastAt? ps t = some f ↔ (t, f) ∈ ps := by
  induction ps using List.reverseRecOn with
  | nil => simp [lastAt?]
  | append_singleton ps p ih =>
    obtain ⟨u, g⟩ := p
    rw [List.map_append, List.nodup_append] at hnodup
    obtain ⟨hps, -, hdisjoint⟩ := hnodup
    rw [lastAt?_append_singleton, List.mem_append, List.mem_singleton, Prod.mk.injEq]
    by_cases h : t = u
    · subst h
      have hnot : (t, f) ∉ ps := fun hmem =>
        hdisjoint t (List.mem_map_of_mem (f := Prod.fst) hmem) t (by simp) rfl
      simp [hnot, eq_comm]
    · simp [h, ih hps]

/-- The order has no part in it when no time is pushed to twice. -/
theorem lastAt?_of_perm {ps qs : Pushes β} (hperm : ps.Perm qs) (hnodup : (ps.map Prod.fst).Nodup)
    (t : Nat) : lastAt? ps t = lastAt? qs t := by
  have hnodup' : (qs.map Prod.fst).Nodup := (hperm.map Prod.fst).nodup_iff.mp hnodup
  apply Option.ext
  intro f
  rw [lastAt?_eq_some_iff_mem hnodup, lastAt?_eq_some_iff_mem hnodup', hperm.mem_iff]

/-- What is kept depends only on the frames pushed last. -/
theorem keep_total_congr {ps qs : Pushes β} (h : ∀ t, lastAt? ps t = lastAt? qs t) (n : Nat) :
    History.keep n (total ps) = History.keep n (total qs) := by
  have hmem : (ps.map Prod.fst).toFinset = (qs.map Prod.fst).toFinset := by
    ext t
    rw [List.mem_toFinset, List.mem_toFinset, mem_times_iff, mem_times_iff, h]
  have htimes : newestTimes n ps = newestTimes n qs := by rw [newestTimes, newestTimes, hmem]
  have hmap : (History.keep n (total ps)).map (fun e => (e.1, some e.2)) =
      (History.keep n (total qs)).map fun e => (e.1, some e.2) := by
    rw [keep_total, keep_total, htimes]
    exact List.map_congr_left fun t _ => by rw [h]
  have hinj : Function.Injective fun e : Nat × β => (e.1, some e.2) := by
    intro x y hxy
    obtain ⟨h1, h2⟩ := Prod.mk.inj hxy
    exact Prod.ext h1 (Option.some.inj h2)
  exact List.map_injective_iff.mpr hinj hmap

end Pushes
end MediaSession
