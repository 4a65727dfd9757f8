import Mathlib.Algebra.Order.Floor.Div
import MediaSession.Proofs.Capture.Walk
import MediaSession.Proofs.Device.Contents
import MediaSession.Proofs.Device.Feed

/-!
# MediaSession.Proofs.Capture.Arrival

Where a fetch ends when the answers all come from the same frames.

* `FetchRoute.arrives`: a walk toward a time at which the answers no longer point on
* `Answers`: a device that answers from one history
* `Answers.ends_among`, `ends_before`, `ends_after`: how far a walk goes, wherever the frames lie
* `Serves.fetch_mem`, `fetch_before`, `fetch_after`, `fetch_between`: what a fetch comes to that
  starts at a frame, before the oldest or after the newest of them, or in a gap
-/

namespace MediaSession

namespace Heading

variable {β : Type}

theorem of?_of_pointed {h : Heading} {f : Fetch β} (hf : h.pointed f = true) : of? f = some h := by
  cases h with
  | later => exact if_pos hf
  | earlier =>
    have hbehind : ¬ f.isBehind = true := fun hb => f.not_behind_and_ahead ⟨hb, hf⟩
    rw [of?, if_neg hbehind]
    exact if_pos hf

theorem pointed_found (h : Heading) (frame : β) : h.pointed (.found frame) = false := by
  cases h <;> rfl

theorem onward_unique {h : Heading} {interval s t t' : Nat} (ht : h.Onward interval s t)
    (ht' : h.Onward interval s t') : t = t' := by
  cases h with
  | later => exact ht.trans ht'.symm
  | earlier => exact Nat.add_right_cancel (ht.symm.trans ht')

end Heading

namespace Clock

variable {β : Type} {c : Clock} {device : Device β} {d : DeviceId} {s : Synced β} {t u : Nat → Nat}
  {k n : Nat} {h : Heading}

theorem FetchRoute.stays (hroute : c.FetchRoute device d s t k)
    (hnone : Heading.of? (device.answer d 0 (t 0)) = none) :
    s.time = t 0 ∧ s.fetch = device.answer d 0 (t 0) := by
  obtain ⟨rfl, -, -⟩ := hroute.still hnone
  exact ⟨hroute.time, hroute.fetch⟩

/-- A walk goes as far as the answers point on, or as its steps allow. -/
theorem FetchRoute.arrives (hroute : c.FetchRoute device d s t k) (hpos : 0 < n)
    (hstart : u 0 = t 0) (honward : ∀ i < n, h.Onward c.interval (u i) (u (i + 1)))
    (hpointed : ∀ i < n, h.pointed (device.answer d i (u i)) = true)
    (hturned : h.pointed (device.answer d n (u n)) = false) :
    k = min n c.maxSteps ∧ s.time = u k ∧ s.fetch = device.answer d k (u k) := by
  have hof : Heading.of? (device.answer d 0 (t 0)) = some h := by
    rw [← hstart]
    exact Heading.of?_of_pointed (hpointed 0 hpos)
  have hwalked := hroute.walked h hof
  have hsame : ∀ i ≤ k, i ≤ n → t i = u i := by
    intro i
    induction i with
    | zero => exact fun _ _ => hstart.symm
    | succ i ih =>
      intro hk hn
      have hnext := hwalked.onward i hk
      rw [ih (Nat.le_of_succ_le hk) (Nat.le_of_succ_le hn)] at hnext
      exact Heading.onward_unique hnext (honward i hn)
  have hle : k ≤ n := by
    by_contra hlt
    have hbeyond := hwalked.pointed n (Nat.lt_of_not_le hlt)
    rw [hsame n (by omega) (Nat.le_refl n), hturned] at hbeyond
    cases hbeyond
  have hk : t k = u k := hsame k (Nat.le_refl k) hle
  have hend : k = n ∨ k = c.maxSteps := by
    rcases Nat.eq_or_lt_of_le hle with heq | hlt
    · exact .inl heq
    · rcases hwalked.stopped with hstopped | hlimit | ⟨rfl, hzero⟩
      · rw [hk, hpointed k hlt] at hstopped
        cases hstopped
      · exact .inr hlimit
      · -- the way goes on from here, so there is an interval left before time zero
        have hnext : u k = u (k + 1) + c.interval := honward k hlt
        omega
  have hlimit := hroute.le_maxSteps
  exact ⟨by omega, hroute.time.trans hk, by rw [hroute.fetch, hk]⟩

end Clock

namespace Clock

theorem ceilDiv_le_iff {interval distance j : Nat} (hpos : 1 ≤ interval) :
    distance ⌈/⌉ interval ≤ j ↔ distance ≤ j * interval := by
  rw [ceilDiv_le_iff_le_mul hpos, Nat.mul_comm]

theorem mul_ceilDiv {interval n : Nat} (hpos : 1 ≤ interval) : n * interval ⌈/⌉ interval = n := by
  rw [Nat.mul_comm]
  exact smul_ceilDiv hpos n

/-- A walk that has a distance to cover goes on for as many steps as that takes, or as it may. -/
theorem steps_eq_min_ceilDiv {interval limit distance k : Nat} (hpos : 1 ≤ interval)
    (hle : k ≤ limit) (hgoes : ∀ i < k, i * interval < distance)
    (hends : k = limit ∨ distance ≤ k * interval) : k = min limit (distance ⌈/⌉ interval) := by
  have hnear : k ≤ distance ⌈/⌉ interval := by
    by_contra hlt
    have hbeyond := hgoes _ (Nat.lt_of_not_le hlt)
    have henough := (ceilDiv_le_iff hpos).mp (Nat.le_refl (distance ⌈/⌉ interval))
    omega
  rcases hends with rfl | hends
  · omega
  · have hfar := (ceilDiv_le_iff hpos).mpr hends
    omega

end Clock

/-- A fetch that comes to a time after so many steps forward and back. -/
structure Synced.Ends {β : Type} (s : Synced β) (time forward backward : Nat) : Prop where
  time : s.time = time
  forward : s.forward = forward
  backward : s.backward = backward

/-! ## A device with a history -/

/-- A device whose answers all come from the same frames. -/
structure Answers {β : Type} (device : Device β) (d : DeviceId) (h : History β) : Prop where
  ne_nil : h ≠ []
  ascending : h.Ascending
  answer : ∀ n t, device.answer d n t = h.fetch t

structure Serves {β : Type} (device : Device β) (d : DeviceId) (h : History β) : Prop
    extends Answers device d h where
  current : device.currentTime d = h.newest

namespace Answers

variable {β : Type} {device : Device β} {d : DeviceId} {h : History β} {c : Clock} {s : Synced β}
  {t : Nat → Nat} {n : Nat}

/-- The frame that a fetch delivers is the one stored at the time it comes to. -/
theorem frame?_eq_some_iff (hanswers : Answers device d h) (hroute : c.FetchRoute device d s t n)
    {f : β} : s.fetch.frame? = some f ↔ (s.time, f) ∈ h := by
  rw [hroute.fetch, hroute.time, hanswers.answer]
  exact History.frame?_fetch_eq_some_iff hanswers.ascending

theorem isFound_iff (hanswers : Answers device d h) (hroute : c.FetchRoute device d s t n) :
    s.fetch.isFound = true ↔ s.time ∈ h.times := by
  rw [Fetch.isFound, Option.isSome_iff_exists]
  simp [hanswers.frame?_eq_some_iff hroute, History.times]

theorem ends_among (hanswers : Answers device d h) (hroute : c.FetchRoute device d s t n)
    (hlow : h.oldest ≤ t 0) (hhigh : t 0 ≤ h.newest) : s.Ends (t 0) 0 0 := by
  have hbehind : ¬ (h.fetch (t 0)).isBehind = true := by
    rw [History.isBehind_fetch_iff hanswers.ascending hanswers.ne_nil]
    omega
  have hahead : ¬ (h.fetch (t 0)).isAhead = true := by
    rw [History.isAhead_fetch_iff hanswers.ascending hanswers.ne_nil]
    omega
  have hnone : Heading.of? (device.answer d 0 (t 0)) = none := by
    rw [hanswers.answer, Heading.of?, if_neg hbehind, if_neg hahead]
  obtain ⟨rfl, hforward, hbackward⟩ := hroute.still hnone
  exact ⟨hroute.time, hforward, hbackward⟩

theorem ends_before (hanswers : Answers device d h) (hroute : c.FetchRoute device d s t n)
    (hinterval : 1 ≤ c.interval) (hlt : t 0 < h.oldest) :
    let k := min c.maxSteps ((h.oldest - t 0) ⌈/⌉ c.interval)
    s.Ends (t 0 + k * c.interval) k 0 := by
  intro k
  have hpointed : ∀ i, Heading.later.pointed (device.answer d i (t i)) = true ↔
      t i < h.oldest := by
    intro i
    rw [hanswers.answer]
    exact History.isBehind_fetch_iff hanswers.ascending hanswers.ne_nil
  have hwalked := hroute.walked .later (Heading.of?_of_pointed ((hpointed 0).mpr hlt))
  have htime := hwalked.time_of_later
  have hsteps : n = k := by
    refine Clock.steps_eq_min_ceilDiv hinterval hroute.le_maxSteps ?_ ?_
    · intro i hi
      have hearly := (hpointed i).mp (hwalked.pointed i hi)
      rw [htime i (Nat.le_of_lt hi)] at hearly
      omega
    · rcases hwalked.stopped with hturned | hlimit | ⟨hearlier, -⟩
      · right
        have hlate : ¬ t n < h.oldest := by
          rw [← hpointed n, hturned]
          simp
        rw [htime n (Nat.le_refl n)] at hlate
        omega
      · exact .inl hlimit
      · cases hearlier
  rw [← hsteps]
  exact ⟨hroute.time.trans (htime n (Nat.le_refl n)), hwalked.steps,
    hwalked.no_others .earlier (by simp)⟩

theorem ends_after (hanswers : Answers device d h) (hroute : c.FetchRoute device d s t n)
    (hinterval : 1 ≤ c.interval) (hlt : h.newest < t 0) :
    let k := min (min c.maxSteps ((t 0 - h.newest) ⌈/⌉ c.interval)) (t 0 / c.interval)
    s.Ends (t 0 - k * c.interval) 0 k := by
  intro k
  have hpointed : ∀ i, Heading.earlier.pointed (device.answer d i (t i)) = true ↔
      h.newest < t i := by
    intro i
    rw [hanswers.answer]
    exact History.isAhead_fetch_iff hanswers.ascending hanswers.ne_nil
  have hwalked := hroute.walked .earlier (Heading.of?_of_pointed ((hpointed 0).mpr hlt))
  have htime := hwalked.time_of_earlier
  have hend := htime n (Nat.le_refl n)
  have hlimit := hroute.le_maxSteps
  have hzero : n ≤ t 0 / c.interval := (Nat.le_div_iff_mul_le hinterval).mpr (by omega)
  have hsteps : n = k := by
    rw [show k = _ from min_right_comm _ _ _]
    refine Clock.steps_eq_min_ceilDiv hinterval (Nat.le_min.mpr ⟨hlimit, hzero⟩) ?_ ?_
    · intro i hi
      have hlate := (hpointed i).mp (hwalked.pointed i hi)
      have hi' := htime i (Nat.le_of_lt hi)
      omega
    · rcases hwalked.stopped with hturned | hall | ⟨-, hfirst⟩
      · right
        have hearly : ¬ h.newest < t n := by
          rw [← hpointed n, hturned]
          simp
        omega
      · left
        omega
      · -- less than an interval is left before time zero
        left
        have hlast : t 0 / c.interval < n + 1 := by
          rw [Nat.div_lt_iff_lt_mul hinterval, Nat.succ_mul]
          omega
        omega
  rw [← hsteps]
  refine ⟨?_, hwalked.no_others .later (by simp), hwalked.steps⟩
  rw [hroute.time]
  omega

end Answers

namespace Serves

variable {β : Type} {device : Device β} {d : DeviceId} {h : History β} {c : Clock} {r n : Nat}

/-- A frame store serves the newest frames of pushes that came in the order of their times. -/
theorem of_kept {s : FrameStore β} {ps : Pushes β}
    (hkept : FrameStore.Kept n (s.track? d) (some ps)) (hs : History.Ascending ps) (hn : 1 ≤ n)
    (hne : ps ≠ []) : Serves s.device d (History.keep n ps) where
  ne_nil := by
    have hpos : 0 < ps.length := List.length_pos_iff.mpr hne
    rw [← List.length_pos_iff, History.length_keep]
    omega
  ascending := History.ascending_keep hs n
  current := by
    show (s.frames d).newest = _
    rw [FrameStore.frames_of_kept hkept, Pushes.total_of_ascending hs]
  answer := fun _ t => by
    show s.fetch d t = _
    rw [FrameStore.fetch_of_kept hkept, Pushes.total_of_ascending hs]

theorem fetch_mem (hserves : Serves device d h) (hr : c.nextTime (device.currentTime d) = r)
    {f : β} (hf : (r, f) ∈ h) :
    (c.fetch device d).1.time = r ∧ (c.fetch device d).1.fetch = .found f := by
  obtain ⟨t, k, hroute⟩ := c.exists_fetchRoute device d
  have h0 : t 0 = r := hroute.first.trans hr
  have hfound : device.answer d 0 (t 0) = .found f := by
    rw [h0, hserves.answer]
    exact History.fetch_of_mem hserves.ascending hf
  obtain ⟨htime, hfetch⟩ := hroute.stays (by rw [hfound]; rfl)
  exact ⟨htime.trans h0, hfetch.trans hfound⟩

theorem fetch_before (hserves : Serves device d h) (hinterval : 1 ≤ c.interval)
    (hr : c.nextTime (device.currentTime d) = r) (hpos : 0 < n)
    (hn : r + n * c.interval = h.oldest) :
    (c.fetch device d).1.time = r + min n c.maxSteps * c.interval ∧
      ((c.fetch device d).1.fetch.isFound = true ↔ n ≤ c.maxSteps) := by
  obtain ⟨t, k, hroute⟩ := c.exists_fetchRoute device d
  obtain rfl : t 0 = r := hroute.first.trans hr
  have hgap : 0 < n * c.interval := Nat.mul_pos hpos hinterval
  have hceil : (h.oldest - t 0) ⌈/⌉ c.interval = n := by
    rw [← hn, Nat.add_sub_cancel_left, Clock.mul_ceilDiv hinterval]
  have htime := (hserves.ends_before hroute hinterval (by omega)).time
  rw [hceil, Nat.min_comm] at htime
  refine ⟨htime, ?_⟩
  rw [hserves.isFound_iff hroute, htime]
  rcases Nat.lt_or_ge c.maxSteps n with hfar | hnear
  · refine iff_of_false ?_ (Nat.not_le_of_lt hfar)
    intro hmem
    obtain ⟨e, he, heq⟩ := List.mem_map.mp hmem
    have hlow := History.oldest_le hserves.ascending he
    have hshort := Nat.mul_lt_mul_of_pos_right hfar hinterval
    rw [heq, Nat.min_eq_right (Nat.le_of_lt hfar)] at hlow
    omega
  · obtain ⟨f, hf⟩ := History.exists_oldest hserves.ne_nil
    rw [Nat.min_eq_left hnear, hn]
    exact iff_of_true (List.mem_map_of_mem hf) hnear

theorem fetch_after (hserves : Serves device d h) (hinterval : 1 ≤ c.interval)
    (hr : c.nextTime (device.currentTime d) = r) (hpos : 0 < n)
    (hn : r = h.newest + n * c.interval) :
    (c.fetch device d).1.time + min n c.maxSteps * c.interval = r ∧
      ((c.fetch device d).1.fetch.isFound = true ↔ n ≤ c.maxSteps) := by
  obtain ⟨t, k, hroute⟩ := c.exists_fetchRoute device d
  obtain rfl : t 0 = r := hroute.first.trans hr
  have hgap : 0 < n * c.interval := Nat.mul_pos hpos hinterval
  have hceil : (t 0 - h.newest) ⌈/⌉ c.interval = n := by
    rw [hn, Nat.add_sub_cancel_left, Clock.mul_ceilDiv hinterval]
  have hzero : n ≤ t 0 / c.interval := (Nat.le_div_iff_mul_le hinterval).mpr (by omega)
  have hsteps : min (min c.maxSteps n) (t 0 / c.interval) = min n c.maxSteps := by omega
  have htime : (c.fetch device d).1.time + min n c.maxSteps * c.interval = t 0 := by
    have hback := (hserves.ends_after hroute hinterval (by omega)).time
    have hfew : min n c.maxSteps * c.interval ≤ n * c.interval :=
      Nat.mul_le_mul_right _ (Nat.min_le_left _ _)
    rw [hceil, hsteps] at hback
    omega
  refine ⟨htime, ?_⟩
  rw [hserves.isFound_iff hroute]
  rcases Nat.lt_or_ge c.maxSteps n with hfar | hnear
  · refine iff_of_false ?_ (Nat.not_le_of_lt hfar)
    intro hmem
    obtain ⟨e, he, heq⟩ := List.mem_map.mp hmem
    have hhigh := History.le_newest hserves.ascending he
    have hshort := Nat.mul_lt_mul_of_pos_right hfar hinterval
    rw [Nat.min_eq_right (Nat.le_of_lt hfar), ← heq] at htime
    omega
  · obtain ⟨f, hf⟩ := History.exists_newest hserves.ne_nil
    rw [Nat.min_eq_left hnear] at htime
    have hlast : (c.fetch device d).1.time = h.newest := by omega
    rw [hlast]
    exact iff_of_true (List.mem_map_of_mem hf) hnear

theorem fetch_between (hserves : Serves device d h) (hr : c.nextTime (device.currentTime d) = r)
    (hbefore : h.oldest < r) (hafter : r < h.newest) (hnot : r ∉ h.times) :
    (c.fetch device d).1.time = r ∧ (c.fetch device d).1.fetch.isFound = false := by
  obtain ⟨t, k, hroute⟩ := c.exists_fetchRoute device d
  obtain rfl : t 0 = r := hroute.first.trans hr
  have htime := (hserves.ends_among hroute (Nat.le_of_lt hbefore) (Nat.le_of_lt hafter)).time
  refine ⟨htime, ?_⟩
  rw [Bool.eq_false_iff, ne_eq, hserves.isFound_iff hroute, htime]
  exact hnot

end Serves

end MediaSession
