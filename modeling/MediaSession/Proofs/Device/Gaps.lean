import Mathlib.Data.List.ReduceOption
import MediaSession.Proofs.Device.Feed

/-!
# MediaSession.Proofs.Device.Gaps

A device for which one frame is due every interval, and to which some of them never come. A log
tells for each interval whether its frame came.

* `arrived`: how many frames came
* `Pushes.gappy`: the frames that came, with their times
* `mem_keep_gappy`: which of them are kept
* `Extent`: the oldest and the newest that are kept, by their places in the log
-/

namespace MediaSession

variable {β : Type} {log : List (Option β)}

def arrived (log : List (Option β)) : Nat := log.countP Option.isSome

theorem arrived_append (log log' : List (Option β)) :
    arrived (log ++ log') = arrived log + arrived log' := List.countP_append

theorem arrived_le_length (log : List (Option β)) : arrived log ≤ log.length :=
  List.countP_le_length

theorem arrived_add_lost (log : List (Option β)) :
    arrived log + log.countP Option.isNone = log.length := by
  induction log with
  | nil => rfl
  | cons frame? log ih =>
    rw [arrived, List.countP_cons, List.countP_cons, List.length_cons, ← ih, arrived]
    cases frame? with
    | none => exact (Nat.add_assoc _ _ _).symm
    | some f => exact Nat.add_right_comm _ _ _

theorem arrived_take_mono (log : List (Option β)) {i j : Nat} (hij : i ≤ j) :
    arrived (log.take i) ≤ arrived (log.take j) :=
  (List.take_sublist_take_left hij).countP_le

theorem arrived_take_le (log : List (Option β)) (k : Nat) : arrived (log.take k) ≤ arrived log :=
  (List.take_sublist k log).countP_le

theorem arrived_take_succ {k : Nat} {frame? : Option β} (hk : log[k]? = some frame?) :
    arrived (log.take (k + 1)) = arrived (log.take k) + frame?.isSome.toNat := by
  rw [List.take_add_one, hk, arrived_append]
  cases frame? <;> rfl

theorem getElem?_concat_eq_some {α : Type} {as : List α} {a b : α} {i : Nat} :
    (as ++ [a])[i]? = some b ↔ as[i]? = some b ∨ i = as.length ∧ a = b := by
  rcases Nat.lt_trichotomy i as.length with hlt | rfl | hgt
  · rw [List.getElem?_append_left hlt]
    simp [Nat.ne_of_lt hlt]
  · simp
  · have hlong : (as ++ [a]).length ≤ i := by
      rw [List.length_append]
      exact hgt
    simp [List.getElem?_eq_none hlong, List.getElem?_eq_none (Nat.le_of_lt hgt), Nat.ne_of_gt hgt]

namespace Pushes

variable {start interval : Nat}

/-- One frame every interval, as far as it came. -/
def gappy (start interval : Nat) (log : List (Option β)) : Pushes β :=
  (log.mapIdx fun k frame? => frame?.map (slot start interval k, ·)).reduceOption

theorem gappy_append_none (log : List (Option β)) :
    gappy start interval (log ++ [none]) = gappy start interval log := by
  simp [gappy, List.mapIdx_append, List.reduceOption_append]

theorem gappy_append_some (log : List (Option β)) (f : β) :
    gappy start interval (log ++ [some f]) =
      gappy start interval log ++ [(slot start interval log.length, f)] := by
  simp [gappy, List.mapIdx_append, List.reduceOption_append]

theorem length_gappy (log : List (Option β)) :
    (gappy start interval log).length = arrived log := by
  induction log using List.reverseRecOn with
  | nil => rfl
  | append_singleton log frame? ih =>
    cases frame? with
    | none => rw [gappy_append_none, ih, arrived_append]; rfl
    | some f => rw [gappy_append_some, List.length_append, ih, arrived_append]; rfl

/-- The pushes come in the order of the log, each after as many as came before its frame. -/
theorem getElem?_gappy {i t : Nat} {f : β} :
    (gappy start interval log)[i]? = some (t, f) ↔
      ∃ k, log[k]? = some (some f) ∧ t = slot start interval k ∧ arrived (log.take k) = i := by
  induction log using List.reverseRecOn with
  | nil => simp [gappy]
  | append_singleton log frame? ih =>
    have htake : ∀ k ≤ log.length, (log ++ [frame?]).take k = log.take k := fun k hk =>
      List.take_append_of_le_length hk
    have hlast : arrived ((log ++ [frame?]).take log.length) = arrived log := by
      rw [htake _ (Nat.le_refl _), List.take_length]
    have hold : (∃ k, log[k]? = some (some f) ∧ t = slot start interval k ∧
          arrived (log.take k) = i) ↔
        ∃ k, log[k]? = some (some f) ∧ t = slot start interval k ∧
          arrived ((log ++ [frame?]).take k) = i := by
      refine exists_congr fun k => and_congr_right fun hk => ?_
      rw [htake k (Nat.le_of_lt (List.getElem?_eq_some_iff.mp hk).1)]
    simp only [getElem?_concat_eq_some, or_and_right, exists_or, ← hold]
    cases frame? with
    | none => simp [gappy_append_none, ih]
    | some g =>
      rw [gappy_append_some, getElem?_concat_eq_some, ih, length_gappy]
      refine or_congr_right ?_
      constructor
      · rintro ⟨rfl, hlatest⟩
        obtain ⟨rfl, rfl⟩ := Prod.mk.inj hlatest
        exact ⟨_, ⟨rfl, rfl⟩, rfl, hlast⟩
      · rintro ⟨k, ⟨rfl, hg⟩, rfl, rfl⟩
        exact ⟨hlast, by rw [Option.some.inj hg]⟩

theorem mem_gappy {t : Nat} {f : β} :
    (t, f) ∈ gappy start interval log ↔
      ∃ k, log[k]? = some (some f) ∧ t = slot start interval k := by
  simp only [List.mem_iff_getElem?, getElem?_gappy]
  constructor
  · rintro ⟨i, k, hk, ht, -⟩
    exact ⟨k, hk, ht⟩
  · rintro ⟨k, hk, ht⟩
    exact ⟨_, k, hk, ht, rfl⟩

theorem ascending_gappy (hpos : 1 ≤ interval) (log : List (Option β)) :
    History.Ascending (gappy start interval log) := by
  induction log using List.reverseRecOn with
  | nil => exact .nil
  | append_singleton log frame? ih =>
    cases frame? with
    | none => rwa [gappy_append_none]
    | some f =>
      rw [gappy_append_some]
      refine List.pairwise_append.mpr ⟨ih, List.pairwise_singleton _ _, fun e he e' he' => ?_⟩
      obtain ⟨k, hk, ht⟩ := mem_gappy.mp he
      rw [List.mem_singleton.mp he', ht]
      exact slot_strictMono start hpos (List.getElem?_eq_some_iff.mp hk).1

theorem mem_keep_gappy {n t : Nat} {f : β} :
    (t, f) ∈ History.keep n (gappy start interval log) ↔
      ∃ k, log[k]? = some (some f) ∧ t = slot start interval k ∧
        arrived log - n ≤ arrived (log.take k) := by
  rw [History.keep, length_gappy, List.mem_iff_getElem?]
  simp only [List.getElem?_drop, getElem?_gappy]
  constructor
  · rintro ⟨i, k, hk, ht, hi⟩
    exact ⟨k, hk, ht, hi ▸ Nat.le_add_right _ i⟩
  · rintro ⟨k, hk, ht, hi⟩
    exact ⟨_, k, hk, ht, (Nat.add_sub_cancel' hi).symm⟩

/-- A history with frames from place `first` to place `last` of the log. -/
structure Extent (start interval : Nat) (log : List (Option β)) (n first last : Nat) : Prop where
  oldest : (History.keep n (gappy start interval log)).oldest = slot start interval first
  newest : (History.keep n (gappy start interval log)).newest = slot start interval last
  first_came : ∃ f, log[first]? = some (some f)
  last_came : ∃ f, log[last]? = some (some f)
  given_up : arrived (log.take first) = arrived log - n
  le_last : ∀ k f, log[k]? = some (some f) → k ≤ last

theorem exists_extent (start interval : Nat) {n : Nat} (hn : 1 ≤ n) (hcame : arrived log ≠ 0) :
    ∃ first last, Extent start interval log n first last := by
  have hlength : (gappy start interval log).length = arrived log := length_gappy log
  obtain ⟨⟨t, f⟩, he⟩ : ∃ e, (gappy start interval log)[arrived log - n]? = some e :=
    ⟨_, List.getElem?_eq_getElem (by omega)⟩
  obtain ⟨first, hfirst, rfl, hgiven⟩ := getElem?_gappy.mp he
  obtain ⟨⟨t, g⟩, he'⟩ : ∃ e, (gappy start interval log)[arrived log - 1]? = some e :=
    ⟨_, List.getElem?_eq_getElem (by omega)⟩
  obtain ⟨last, hlast, rfl, hbefore⟩ := getElem?_gappy.mp he'
  refine ⟨first, last, ?_, ?_, ⟨f, hfirst⟩, ⟨g, hlast⟩, hgiven, fun k f' hk => ?_⟩
  · rw [History.oldest, History.keep, List.head?_drop, hlength, he]
    rfl
  · have hsome : ¬ arrived log ≤ arrived log - n := by omega
    rw [History.newest, History.keep, List.getLast?_drop, hlength, if_neg hsome,
      List.getLast?_eq_getElem?, hlength, he']
    rfl
  · -- all that came had come when the last had
    by_contra hlt
    have hmono : arrived (log.take (last + 1)) ≤ arrived (log.take k) :=
      arrived_take_mono log (Nat.lt_of_not_le hlt)
    have hsucc := arrived_take_succ hlast
    have hk := arrived_take_succ hk
    have hall := arrived_take_le log (k + 1)
    simp only [Option.isSome_some, Bool.toNat_true] at hsucc hk
    omega

end Pushes
end MediaSession
