import Mathlib.Order.Monotone.Basic
import MediaSession.Proofs.Device.Pushes

/-!
# MediaSession.Proofs.Device.Feed

A device that gets one frame every interval, and keeps the newest of them.

* `slot`: the time of a frame
* `History.isBehind_fetch_iff`, `isAhead_fetch_iff`, `frame?_fetch_eq_some_iff`: what the answer for
  a time says of the times that are there
* `Pushes.feed`: the frames with their times
* `fetch_keep_feed`, `isBehind_fetch_keep_feed`, `isAhead_fetch_keep_feed`: the answer for the time
  of a frame that is there, that has been given up, or that is yet to come
-/

namespace MediaSession

/-- The time of frame `k`, when there is one every interval. -/
def slot (start interval k : Nat) : Nat := start + k * interval

theorem slot_add (start interval k i : Nat) :
    slot start interval (k + i) = slot start interval k + i * interval := by
  rw [slot, slot, Nat.add_mul, Nat.add_assoc]

theorem slot_succ (start interval k : Nat) :
    slot start interval (k + 1) = slot start interval k + interval := by
  rw [slot_add, Nat.one_mul]

theorem slot_strictMono (start : Nat) {interval : Nat} (hpos : 1 ≤ interval) :
    StrictMono (slot start interval) := by
  refine strictMono_nat_of_lt_succ fun k => ?_
  rw [slot_succ]
  omega

namespace History

variable {β : Type}

/-- The time of the oldest frame, zero if there is none. -/
def oldest (h : History β) : Nat := (h.head?.map Prod.fst).getD 0

theorem exists_oldest {h : History β} (hne : h ≠ []) : ∃ f, (h.oldest, f) ∈ h := by
  cases h with
  | nil => exact absurd rfl hne
  | cons e h => exact ⟨e.2, List.mem_cons_self⟩

theorem exists_newest {h : History β} (hne : h ≠ []) : ∃ f, (h.newest, f) ∈ h := by
  refine ⟨(h.getLast hne).2, ?_⟩
  have hnewest : h.newest = (h.getLast hne).1 := by
    rw [newest, List.getLast?_eq_some_getLast hne]
    rfl
  rw [hnewest]
  exact List.getLast_mem hne

theorem oldest_le {h : History β} (hs : h.Ascending) {e : Nat × β} (he : e ∈ h) :
    h.oldest ≤ e.1 := by
  cases h with
  | nil => cases he
  | cons first h =>
    rcases List.mem_cons.mp he with rfl | he
    · exact Nat.le_refl _
    · exact Nat.le_of_lt ((List.pairwise_cons.mp hs).1 e he)

theorem le_newest {h : History β} (hs : h.Ascending) {e : Nat × β} (he : e ∈ h) :
    e.1 ≤ h.newest := by
  induction h using List.reverseRecOn with
  | nil => cases he
  | append_singleton h last _ =>
    have hnewest : newest (h ++ [last]) = last.1 := by simp [newest]
    rw [hnewest]
    rcases List.mem_append.mp he with he | he
    · exact Nat.le_of_lt ((List.pairwise_append.mp hs).2.2 e he last List.mem_cons_self)
    · rw [List.mem_singleton.mp he]

theorem isBehind_fetch {h : History β} {t : Nat} (hne : h ≠ []) (ht : ∀ e ∈ h, t < e.1) :
    (h.fetch t).isBehind = true := by
  have hnone : ∀ e ∈ ([] : History β), e.1 < t := by simp
  have hpos : 0 < h.length := List.length_pos_iff.mpr hne
  have hfetch : h.fetch t = .missing (capped h.length) (capped 0) := fetch_append hnone ht
  rw [hfetch]
  simp [Fetch.isBehind, Fetch.missing, Fetch.isMissing, capped, hpos]

theorem isAhead_fetch {h : History β} {t : Nat} (hne : h ≠ []) (ht : ∀ e ∈ h, e.1 < t) :
    (h.fetch t).isAhead = true := by
  have hnone : ∀ e ∈ ([] : History β), t < e.1 := by simp
  have hpos : 0 < h.length := List.length_pos_iff.mpr hne
  have hfetch : h.fetch t = .missing (capped 0) (capped h.length) := by
    have hparts := fetch_append ht hnone
    rwa [List.append_nil] at hparts
  rw [hfetch]
  simp [Fetch.isAhead, Fetch.missing, Fetch.isMissing, capped, hpos]

theorem capped_pos {n : Nat} (hn : 0 < n) : 0 < capped n := by
  simp only [capped]
  omega

section Sides

variable {h : History β} (hs : h.Ascending) {t : Nat}

include hs

/-- From the time of some frame on, not all frames are later. -/
theorem isBehind_fetch_eq_false {e : Nat × β} (he : e ∈ h) (hle : e.1 ≤ t) :
    (h.fetch t).isBehind = false := by
  by_cases ht : t ∈ h.times
  · obtain ⟨⟨u, f⟩, hf, rfl⟩ := List.mem_map.mp ht
    rw [fetch_of_mem hs hf]
    rfl
  · have hlt : e.1 < t := Nat.lt_of_le_of_ne hle fun heq => ht (heq ▸ List.mem_map_of_mem he)
    have hcount : 0 < h.times.countP (· < t) :=
      List.countP_pos_iff.mpr ⟨_, List.mem_map_of_mem he, decide_eq_true hlt⟩
    rw [fetch_of_not_mem hs ht]
    simp [Fetch.isBehind, Fetch.missing, Nat.ne_of_gt (capped_pos hcount)]

theorem isAhead_fetch_eq_false {e : Nat × β} (he : e ∈ h) (hle : t ≤ e.1) :
    (h.fetch t).isAhead = false := by
  by_cases ht : t ∈ h.times
  · obtain ⟨⟨u, f⟩, hf, rfl⟩ := List.mem_map.mp ht
    rw [fetch_of_mem hs hf]
    rfl
  · have hlt : t < e.1 := Nat.lt_of_le_of_ne hle fun heq => ht (heq ▸ List.mem_map_of_mem he)
    have hcount : 0 < h.times.countP (t < ·) :=
      List.countP_pos_iff.mpr ⟨_, List.mem_map_of_mem he, decide_eq_true hlt⟩
    rw [fetch_of_not_mem hs ht]
    simp [Fetch.isAhead, Fetch.missing, Nat.ne_of_gt (capped_pos hcount)]

theorem isBehind_fetch_iff (hne : h ≠ []) : (h.fetch t).isBehind = true ↔ t < h.oldest := by
  constructor
  · intro hbehind
    by_contra hge
    obtain ⟨f, hf⟩ := exists_oldest hne
    rw [isBehind_fetch_eq_false hs hf (Nat.le_of_not_lt hge)] at hbehind
    cases hbehind
  · intro hlt
    refine isBehind_fetch hne fun e he => ?_
    exact Nat.lt_of_lt_of_le hlt (oldest_le hs he)

theorem isAhead_fetch_iff (hne : h ≠ []) : (h.fetch t).isAhead = true ↔ h.newest < t := by
  constructor
  · intro hahead
    by_contra hge
    obtain ⟨f, hf⟩ := exists_newest hne
    rw [isAhead_fetch_eq_false hs hf (Nat.le_of_not_lt hge)] at hahead
    cases hahead
  · intro hlt
    refine isAhead_fetch hne fun e he => ?_
    exact Nat.lt_of_le_of_lt (le_newest hs he) hlt

theorem frame?_fetch_eq_some_iff {f : β} : (h.fetch t).frame? = some f ↔ (t, f) ∈ h := by
  constructor
  · intro hframe
    by_cases ht : t ∈ h.times
    · obtain ⟨⟨u, g⟩, hg, rfl⟩ := List.mem_map.mp ht
      rw [fetch_of_mem hs hg] at hframe
      obtain rfl : g = f := Option.some.inj hframe
      exact hg
    · rw [fetch_of_not_mem hs ht] at hframe
      cases hframe
  · intro hf
    rw [fetch_of_mem hs hf]
    rfl

end Sides

end History

namespace Pushes

variable {β : Type} {start interval : Nat}

/-- Pushes in the order of their times leave nothing to be put in order. -/
theorem total_of_ascending {ps : Pushes β} (hs : History.Ascending ps) : ps.total = ps := by
  induction ps using List.reverseRecOn with
  | nil => rfl
  | append_singleton ps p ih =>
    obtain ⟨hps, -, hlt⟩ := List.pairwise_append.mp hs
    have hbefore : ∀ e ∈ ps, e.1 < p.1 := fun e he => hlt e he p (List.mem_singleton_self p)
    have hafter : ∀ e ∈ ([] : History β), p.1 < e.1 := by simp
    have hinsert := History.insert_append hbefore hafter p.2
    rw [List.append_nil] at hinsert
    rw [total_append_singleton, ih hps, hinsert]

/-- One frame every interval. -/
def feed (start interval : Nat) (frames : List β) : Pushes β :=
  frames.mapIdx fun k f => (slot start interval k, f)

theorem feed_append_singleton (frames : List β) (f : β) :
    feed start interval (frames ++ [f]) =
      feed start interval frames ++ [(slot start interval frames.length, f)] := by
  simp [feed, List.mapIdx_append]

theorem length_feed (frames : List β) : (feed start interval frames).length = frames.length :=
  List.length_mapIdx

theorem getElem?_feed (frames : List β) (k : Nat) :
    (feed start interval frames)[k]? = frames[k]?.map (slot start interval k, ·) :=
  List.getElem?_mapIdx

theorem ascending_feed (hpos : 1 ≤ interval) (frames : List β) :
    History.Ascending (feed start interval frames) := by
  refine List.pairwise_iff_getElem.mpr fun i j hi hj hij => ?_
  simpa [feed] using slot_strictMono start hpos hij

theorem total_feed (hpos : 1 ≤ interval) (frames : List β) :
    (feed start interval frames).total = feed start interval frames :=
  total_of_ascending (ascending_feed hpos frames)

/-! ## What is kept of a feed -/

/-- Of a feed the frames are kept from some frame on. -/
theorem mem_keep_feed {n : Nat} {frames : List β} {t : Nat} {f : β} :
    (t, f) ∈ History.keep n (feed start interval frames) ↔
      ∃ k, frames.length - n ≤ k ∧ frames[k]? = some f ∧ t = slot start interval k := by
  rw [History.keep, length_feed, List.mem_iff_getElem?]
  constructor
  · rintro ⟨i, hi⟩
    rw [List.getElem?_drop, getElem?_feed] at hi
    obtain ⟨g, hg, htf⟩ := Option.map_eq_some_iff.mp hi
    obtain ⟨rfl, rfl⟩ := Prod.mk.inj htf
    exact ⟨_, Nat.le_add_right _ i, hg, rfl⟩
  · rintro ⟨k, hk, hf, rfl⟩
    refine ⟨k - (frames.length - n), ?_⟩
    rw [List.getElem?_drop, getElem?_feed, Nat.add_sub_cancel' hk, hf]
    rfl

theorem mem_times_keep_feed {n : Nat} {frames : List β} {t : Nat} :
    t ∈ (History.keep n (feed start interval frames)).times ↔
      ∃ k, frames.length - n ≤ k ∧ k < frames.length ∧ t = slot start interval k := by
  rw [History.times, List.mem_map]
  constructor
  · rintro ⟨⟨u, f⟩, he, rfl⟩
    obtain ⟨k, hk, hf, hu⟩ := mem_keep_feed.mp he
    exact ⟨k, hk, (List.getElem?_eq_some_iff.mp hf).1, hu⟩
  · rintro ⟨k, hk, hlt, rfl⟩
    exact ⟨(_, frames[k]), mem_keep_feed.mpr ⟨k, hk, List.getElem?_eq_getElem hlt, rfl⟩, rfl⟩

section Kept

variable {n : Nat} {frames : List β}

theorem keep_feed_ne_nil (hn : 1 ≤ n) (hne : frames ≠ []) :
    History.keep n (feed start interval frames) ≠ [] := by
  have hpos : 0 < frames.length := List.length_pos_iff.mpr hne
  rw [← List.length_pos_iff, History.length_keep, length_feed]
  omega

theorem oldest_keep_feed (hn : 1 ≤ n) (hne : frames ≠ []) :
    (History.keep n (feed start interval frames)).oldest =
      slot start interval (frames.length - n) := by
  have hpos : 0 < frames.length := List.length_pos_iff.mpr hne
  have hlt : frames.length - n < frames.length := by omega
  rw [History.oldest, History.keep, List.head?_drop, length_feed, getElem?_feed,
    List.getElem?_eq_getElem hlt]
  rfl

theorem newest_keep_feed (hn : 1 ≤ n) (hne : frames ≠ []) :
    (History.keep n (feed start interval frames)).newest =
      slot start interval (frames.length - 1) := by
  have hpos : 0 < frames.length := List.length_pos_iff.mpr hne
  have hlt : frames.length - 1 < frames.length := by omega
  have hsome : ¬ frames.length ≤ frames.length - n := by omega
  rw [History.newest, History.keep, List.getLast?_drop, length_feed, if_neg hsome,
    List.getLast?_eq_getElem?, length_feed, getElem?_feed, List.getElem?_eq_getElem hlt]
  rfl

theorem fetch_keep_feed (hpos : 1 ≤ interval) {k : Nat} {f : β} (hk : frames.length - n ≤ k)
    (hf : frames[k]? = some f) :
    (History.keep n (feed start interval frames)).fetch (slot start interval k) = .found f :=
  History.fetch_of_mem (History.ascending_keep (ascending_feed hpos frames) n)
    (mem_keep_feed.mpr ⟨k, hk, hf, rfl⟩)

theorem isBehind_fetch_keep_feed (hpos : 1 ≤ interval) (hn : 1 ≤ n) {k : Nat}
    (hk : k < frames.length - n) :
    ((History.keep n (feed start interval frames)).fetch (slot start interval k)).isBehind =
      true := by
  have hne : frames ≠ [] := by
    rintro rfl
    simp at hk
  refine History.isBehind_fetch (keep_feed_ne_nil hn hne) fun e he => ?_
  obtain ⟨j, hj, -, ht⟩ := mem_keep_feed.mp he
  rw [ht]
  exact slot_strictMono start hpos (Nat.lt_of_lt_of_le hk hj)

theorem isAhead_fetch_keep_feed (hpos : 1 ≤ interval) (hn : 1 ≤ n) (hne : frames ≠ []) {k : Nat}
    (hk : frames.length ≤ k) :
    ((History.keep n (feed start interval frames)).fetch (slot start interval k)).isAhead =
      true := by
  refine History.isAhead_fetch (keep_feed_ne_nil hn hne) fun e he => ?_
  obtain ⟨j, -, hf, ht⟩ := mem_keep_feed.mp he
  rw [ht]
  have hlt : j < frames.length := (List.getElem?_eq_some_iff.mp hf).1
  exact slot_strictMono start hpos (Nat.lt_of_lt_of_le hlt hk)

end Kept

end Pushes
end MediaSession
