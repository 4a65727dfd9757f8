import MediaSession.Proofs.Capture.Arrival

/-!
# MediaSession.Proofs.Capture.Live

A clock that follows a device while frames are pushed to it, one every interval. Pushes and fetches
come in any order, as long as the clock never falls further back than one walk goes.

* `Window`: the device as the clock sees it, and the three ways in which a fetch ends in it
* `Live`, `Live.Reachable`: the device with its clock, and every run of the two
* `Live.Following`: the invariant of such a run
* `follows_live`: no frame is lost or delivered out of order while it is buffered
-/

namespace MediaSession

/-! ## A fetch from a window of frames -/

/-- A device that has the frames of a feed from the one at place `first` on. -/
structure Window {β : Type} (device : Device β) (d : DeviceId) (start interval first : Nat)
    (frames : List β) : Prop where
  first_lt : first < frames.length
  current : device.currentTime d = slot start interval (frames.length - 1)
  found : ∀ k f, first ≤ k → frames[k]? = some f →
    ∀ n, device.answer d n (slot start interval k) = .found f
  behind : ∀ k < first, ∀ n, (device.answer d n (slot start interval k)).isBehind = true
  ahead : ∀ k, frames.length ≤ k →
    ∀ n, (device.answer d n (slot start interval k)).isAhead = true

namespace Window

variable {β : Type} {device : Device β} {d : DeviceId} {start first : Nat} {frames : List β}
  {c : Clock} {s : Synced β} {t : Nat → Nat} {k : Nat}

theorem exists_found {interval : Nat} (h : Window device d start interval first frames) {j : Nat}
    (hj : first ≤ j) (hlt : j < frames.length) :
    ∃ f, frames[j]? = some f ∧ ∀ n, device.answer d n (slot start interval j) = .found f :=
  ⟨frames[j], List.getElem?_eq_getElem hlt, h.found j _ hj (List.getElem?_eq_getElem hlt)⟩

theorem still (h : Window device d start c.interval first frames)
    (hroute : c.FetchRoute device d s t k) {j : Nat} (hj : first ≤ j) (hlt : j < frames.length)
    (h0 : t 0 = slot start c.interval j) : s.time = slot start c.interval j := by
  obtain ⟨f, -, hf⟩ := h.exists_found hj hlt
  have hnone : Heading.of? (device.answer d 0 (t 0)) = none := by
    rw [h0, hf]
    rfl
  exact (hroute.stays hnone).1.trans h0

/-- From a frame that has been given up the clock walks to the oldest that is there. -/
theorem later (h : Window device d start c.interval first frames)
    (hroute : c.FetchRoute device d s t k) {j : Nat} (hj : j < first)
    (hreach : first ≤ j + c.maxSteps) (h0 : t 0 = slot start c.interval j) :
    s.time = slot start c.interval first := by
  obtain ⟨f, -, hf⟩ := h.exists_found (Nat.le_refl first) h.first_lt
  have hsplit : j + (first - j) = first := by omega
  obtain ⟨hk, htime, -⟩ := hroute.arrives (u := fun i => slot start c.interval (j + i))
    (n := first - j) (h := .later) (by omega) h0.symm (fun i _ => slot_succ _ _ _)
    (fun i hi => h.behind (j + i) (by omega) i)
    (by rw [hsplit, hf, Heading.pointed_found])
  have hend : j + k = first := by omega
  rw [htime, hend]

/-- From the frame that is still to come the clock takes one step back. -/
theorem earlier (h : Window device d start c.interval first frames)
    (hroute : c.FetchRoute device d s t k) (hsteps : 1 ≤ c.maxSteps) {j : Nat}
    (hj : j + 1 = frames.length) (h0 : t 0 = slot start c.interval (j + 1)) :
    s.time = slot start c.interval j := by
  have hfirst := h.first_lt
  obtain ⟨f, -, hf⟩ := h.exists_found (show first ≤ j by omega) (by omega)
  obtain ⟨hk, htime, -⟩ := hroute.arrives (u := fun i => slot start c.interval (j + 1 - i))
    (n := 1) (h := .earlier) Nat.one_pos h0.symm
    (fun i hi => by
      obtain rfl : i = 0 := by omega
      exact slot_succ start c.interval j)
    (fun i hi => by
      obtain rfl : i = 0 := by omega
      exact h.ahead (j + 1) hj.ge 0)
    (by rw [Nat.add_sub_cancel, hf, Heading.pointed_found])
  have hone : k = 1 := by omega
  rw [htime, hone, Nat.add_sub_cancel]

theorem fetch_newest (h : Window device d start c.interval first frames)
    (hnew : c.previous = none) :
    (c.fetch device d).1.time = slot start c.interval (frames.length - 1) := by
  obtain ⟨t, k, hroute⟩ := c.exists_fetchRoute device d
  have hfirst := h.first_lt
  have h0 : t 0 = slot start c.interval (frames.length - 1) := by
    rw [hroute.first, hnew]
    exact h.current
  exact h.still hroute (by omega) (by omega) h0

/-- A clock goes on with the next frame, or with the nearest to it that is there. -/
theorem fetch_next (h : Window device d start c.interval first frames) {q : Nat}
    (hprevious : c.previous = some (slot start c.interval q)) (hq : q < frames.length)
    (hreach : first ≤ q + 1 + c.maxSteps) (hsteps : 1 ≤ c.maxSteps) :
    (c.fetch device d).1.time =
      slot start c.interval (max first (min (q + 1) (frames.length - 1))) := by
  obtain ⟨t, k, hroute⟩ := c.exists_fetchRoute device d
  have h0 : t 0 = slot start c.interval (q + 1) := by
    rw [hroute.first, hprevious, slot_succ]
  have hfirst := h.first_lt
  rcases Nat.lt_or_ge (q + 1) first with hgone | hfirst'
  · have hr : max first (min (q + 1) (frames.length - 1)) = first := by omega
    rw [hr]
    exact h.later hroute hgone hreach h0
  · rcases Nat.lt_or_ge (q + 1) frames.length with hlt | hge
    · have hr : max first (min (q + 1) (frames.length - 1)) = q + 1 := by omega
      rw [hr]
      exact h.still hroute hfirst' hlt h0
    · have hr : max first (min (q + 1) (frames.length - 1)) = q := by omega
      rw [hr]
      exact h.earlier hroute hsteps (by omega) h0

theorem fetch_found (h : Window device d start c.interval first frames) {r : Nat}
    (hr : first ≤ r) (hlt : r < frames.length)
    (htime : (c.fetch device d).1.time = slot start c.interval r) :
    ∃ f, frames[r]? = some f ∧ (c.fetch device d).1.fetch = .found f := by
  obtain ⟨t, k, hroute⟩ := c.exists_fetchRoute device d
  obtain ⟨f, hf, hfound⟩ := h.exists_found hr hlt
  refine ⟨f, hf, ?_⟩
  rw [hroute.fetch, ← hroute.time, htime, hfound]

end Window

/-! ## Pushes and fetches -/

/-- A device that is pushed to every interval, and a clock that follows it. -/
structure Live (β : Type) where
  store : FrameStore β
  clock : Clock
  /-- The frames pushed, in order. -/
  pushed : List β := []
  /-- What the fetches came to, the latest first. -/
  fetched : List (Synced β) := []
  /-- How many frames were pushed since the last fetch. -/
  waiting : Nat := 0

namespace Live

variable {β : Type}

def slotOf (l : Live β) (start k : Nat) : Nat := slot start l.clock.interval k

def push (l : Live β) (d : DeviceId) (start : Nat) (frame : β) : Live β :=
  { l with
    store := l.store.apply (.push d (l.slotOf start l.pushed.length) frame)
    pushed := l.pushed ++ [frame]
    waiting := l.waiting + 1 }

/-- What a fetch comes to now, and the clock it leaves. -/
def outcome (l : Live β) (d : DeviceId) : Synced β × Clock := l.clock.fetch l.store.device d

def fetch (l : Live β) (d : DeviceId) : Live β :=
  { l with
    clock := (l.outcome d).2
    fetched := (l.outcome d).1 :: l.fetched
    waiting := 0 }

/-- A fetch may come: the first after a push, and every other before too many of them. -/
def Due (l : Live β) : Prop :=
  l.pushed ≠ [] ∧ (l.fetched = [] ∨ l.waiting ≤ l.clock.maxSteps + 1)

/-- The runs of a device that is there without frames, and of a new clock. -/
inductive Reachable (d : DeviceId) (start : Nat) : Live β → Prop
  | start {history : Nat} {cs : List (Change β)} {clock : Clock}
      (hempty : pushedSince d cs = some []) (hnew : clock.previous = none)
      (hinterval : 1 ≤ clock.interval) (hsteps : 1 ≤ clock.maxSteps) :
      Reachable d start { store := (FrameStore.keeping history).run cs, clock }
  | push {l : Live β} (hl : Reachable d start l) (frame : β) :
      Reachable d start (l.push d start frame)
  | fetch {l : Live β} (hl : Reachable d start l) (hdue : l.Due) : Reachable d start (l.fetch d)

/-- The frame that a fetch comes to is the one that follows, as far as it is there. -/
structure Follows (l : Live β) (d : DeviceId) (start : Nat) (s : Synced β) : Prop where
  found : ∃ k f, l.pushed[k]? = some f ∧ s.time = l.slotOf start k ∧ s.fetch = .found f
  first : l.clock.previous = none → s.time = (l.store.frames d).newest
  next : ∀ p, l.clock.previous = some p → s.time =
    max (l.store.frames d).oldest (min (p + l.clock.interval) (l.store.frames d).newest)
  forward : ∀ p, l.clock.previous = some p → p ≤ s.time
  skipped : ∀ p, l.clock.previous = some p → ∀ k < l.pushed.length,
    p < l.slotOf start k → l.slotOf start k < s.time →
      l.slotOf start k ∉ (l.store.frames d).times
  again : ∀ p, l.clock.previous = some p → s.time = p → ∀ t ∈ (l.store.frames d).times, t ≤ p

/-! ## The invariant -/

def oldestPlace (l : Live β) : Nat := l.pushed.length - l.store.capacity

/-- A device holds the newest of its feed, and its clock is at most the waiting frames behind. -/
structure Following (d : DeviceId) (start : Nat) (l : Live β) : Prop where
  interval_pos : 1 ≤ l.clock.interval
  maxSteps_pos : 1 ≤ l.clock.maxSteps
  capacity_pos : 1 ≤ l.store.capacity
  kept : FrameStore.Kept l.store.capacity (l.store.track? d)
    (some (Pushes.feed start l.clock.interval l.pushed))
  baseline : ∀ p, l.clock.previous = some p →
    ∃ q < l.pushed.length, p = l.slotOf start q ∧ l.oldestPlace ≤ q + l.waiting
  previous : l.clock.previous = l.fetched.head?.map Synced.time
  ascending : l.fetched.Pairwise fun s s' => s'.time ≤ s.time
  found : ∀ s ∈ l.fetched, s.fetch.isFound = true

variable {d : DeviceId} {start : Nat} {l : Live β}

theorem Following.frames_eq (h : l.Following d start) : l.store.frames d =
    History.keep l.store.capacity (Pushes.feed start l.clock.interval l.pushed) := by
  rw [FrameStore.frames_of_kept h.kept, Pushes.total_feed h.interval_pos]

theorem Following.fetch_eq (h : l.Following d start) (t : Nat) : l.store.fetch d t =
    (History.keep l.store.capacity (Pushes.feed start l.clock.interval l.pushed)).fetch t := by
  rw [FrameStore.fetch_of_kept h.kept, Pushes.total_feed h.interval_pos]

theorem Following.window (h : l.Following d start) (hne : l.pushed ≠ []) :
    Window l.store.device d start l.clock.interval l.oldestPlace l.pushed where
  first_lt := by
    have hpos : 0 < l.pushed.length := List.length_pos_iff.mpr hne
    have hcapacity := h.capacity_pos
    simp only [oldestPlace]
    omega
  current := by
    show (l.store.frames d).newest = _
    rw [h.frames_eq, Pushes.newest_keep_feed h.capacity_pos hne]
  found := fun k f hk hf n =>
    (h.fetch_eq _).trans (Pushes.fetch_keep_feed h.interval_pos hk hf)
  behind := fun k hk n => by
    show (l.store.fetch d _).isBehind = true
    rw [h.fetch_eq]
    exact Pushes.isBehind_fetch_keep_feed h.interval_pos h.capacity_pos hk
  ahead := fun k hk n => by
    show (l.store.fetch d _).isAhead = true
    rw [h.fetch_eq]
    exact Pushes.isAhead_fetch_keep_feed h.interval_pos h.capacity_pos hne hk

/-! ## One fetch -/

theorem Following.time_outcome (h : l.Following d start) (hdue : l.Due) {q : Nat}
    (hprevious : l.clock.previous = some (l.slotOf start q)) :
    q < l.pushed.length ∧ (l.outcome d).1.time =
      l.slotOf start (max l.oldestPlace (min (q + 1) (l.pushed.length - 1))) := by
  obtain ⟨hne, hwaiting⟩ := hdue
  obtain ⟨q', hq', hslot, hreach⟩ := h.baseline _ hprevious
  obtain rfl : q = q' := (slot_strictMono start h.interval_pos).injective hslot
  have hsome : l.fetched ≠ [] := by
    intro hnil
    rw [h.previous, hnil] at hprevious
    cases hprevious
  have hwaiting := hwaiting.resolve_left hsome
  exact ⟨hq', (h.window hne).fetch_next hprevious hq' (by omega) h.maxSteps_pos⟩

theorem Following.exists_place (h : l.Following d start) (hdue : l.Due) :
    ∃ r f, l.oldestPlace ≤ r ∧ l.pushed[r]? = some f ∧
      (l.outcome d).1.time = l.slotOf start r ∧ (l.outcome d).1.fetch = .found f := by
  have hwindow := h.window hdue.1
  have hfirst := hwindow.first_lt
  obtain ⟨r, hr, hlt, htime⟩ : ∃ r, l.oldestPlace ≤ r ∧ r < l.pushed.length ∧
      (l.outcome d).1.time = l.slotOf start r := by
    cases hprevious : l.clock.previous with
    | none => exact ⟨_, by omega, by omega, hwindow.fetch_newest hprevious⟩
    | some p =>
      obtain ⟨q, hq, rfl, -⟩ := h.baseline p hprevious
      exact ⟨_, by omega, by omega, (h.time_outcome hdue hprevious).2⟩
  obtain ⟨f, hf, hfound⟩ := hwindow.fetch_found hr hlt htime
  exact ⟨r, f, hr, hf, htime, hfound⟩

theorem Following.follows (h : l.Following d start) (hdue : l.Due) :
    l.Follows d start (l.outcome d).1 := by
  have hmono := slot_strictMono start h.interval_pos
  have holdest : (l.store.frames d).oldest = l.slotOf start l.oldestPlace := by
    rw [h.frames_eq, Pushes.oldest_keep_feed h.capacity_pos hdue.1]
    rfl
  have hnewest : (l.store.frames d).newest = l.slotOf start (l.pushed.length - 1) := by
    rw [h.frames_eq, Pushes.newest_keep_feed h.capacity_pos hdue.1]
    rfl
  have htimes : ∀ t, t ∈ (l.store.frames d).times ↔
      ∃ k, l.oldestPlace ≤ k ∧ k < l.pushed.length ∧ t = l.slotOf start k := by
    intro t
    rw [h.frames_eq]
    exact Pushes.mem_times_keep_feed
  refine ⟨?_, fun hnew => ?_, fun p hp => ?_, fun p hp => ?_, fun p hp => ?_, fun p hp => ?_⟩
  · obtain ⟨r, f, -, hf, htime, hfound⟩ := h.exists_place hdue
    exact ⟨r, f, hf, htime, hfound⟩
  · rw [hnewest]
    exact (h.window hdue.1).fetch_newest hnew
  all_goals
    obtain ⟨q, -, rfl, -⟩ := h.baseline p hp
    obtain ⟨hq, htime⟩ := h.time_outcome hdue hp
    rw [htime]
  · have hsucc : l.slotOf start q + l.clock.interval = l.slotOf start (q + 1) :=
      (slot_succ start _ q).symm
    rw [holdest, hnewest, hsucc]
    exact hmono.monotone.map_max.trans (congrArg _ hmono.monotone.map_min)
  · exact hmono.monotone (by omega)
  · intro k hk hafter hbefore hmem
    obtain ⟨k', hk', -, hslot⟩ := (htimes _).mp hmem
    obtain rfl : k = k' := hmono.injective hslot
    have hqk : q < k := hmono.lt_iff_lt.mp hafter
    have hkr := hmono.lt_iff_lt.mp hbefore
    omega
  · intro hsame t ht
    have hr := hmono.injective hsame
    obtain ⟨k, -, hk, rfl⟩ := (htimes _).mp ht
    exact hmono.monotone (by omega)

/-! ## Runs -/

theorem following_start {history : Nat} {cs : List (Change β)} {clock : Clock}
    (hempty : pushedSince d cs = some []) (hnew : clock.previous = none)
    (hinterval : 1 ≤ clock.interval) (hsteps : 1 ≤ clock.maxSteps) :
    Following d start { store := (FrameStore.keeping history).run cs, clock } where
  interval_pos := hinterval
  maxSteps_pos := hsteps
  capacity_pos := by
    rw [FrameStore.capacity_run]
    exact Nat.le_max_right history 1
  kept := by
    have hkept := FrameStore.kept_keeping history cs d
    rw [hempty] at hkept
    rw [FrameStore.capacity_run]
    exact hkept
  baseline := by
    intro p hp
    rw [hnew] at hp
    cases hp
  previous := hnew
  ascending := .nil
  found := by simp

theorem capacity_push (l : Live β) (d : DeviceId) (start : Nat) (frame : β) :
    (l.push d start frame).store.capacity = l.store.capacity := FrameStore.capacity_apply _ _

/-- The newest of a feed are those of the feed with one frame more. -/
theorem kept_push (frame : β)
    (h : FrameStore.Kept l.store.capacity (l.store.track? d)
      (some (Pushes.feed start l.clock.interval l.pushed))) :
    FrameStore.Kept (l.push d start frame).store.capacity ((l.push d start frame).store.track? d)
      (some (Pushes.feed start l.clock.interval (l.push d start frame).pushed)) := by
  have hkept := FrameStore.kept_apply l.store
    (.push d (l.slotOf start l.pushed.length) frame) d h
  simp only [Change.device, if_true] at hkept
  show FrameStore.Kept _ _ (some (Pushes.feed start l.clock.interval (l.pushed ++ [frame])))
  rw [Pushes.feed_append_singleton]
  exact hkept

theorem Following.push (h : l.Following d start) (frame : β) :
    (l.push d start frame).Following d start where
  interval_pos := h.interval_pos
  maxSteps_pos := h.maxSteps_pos
  capacity_pos := by
    rw [capacity_push]
    exact h.capacity_pos
  kept := kept_push frame h.kept
  baseline := by
    intro p hp
    obtain ⟨q, hq, hslot, hreach⟩ := h.baseline p hp
    refine ⟨q, ?_, hslot, ?_⟩
    · simp only [Live.push, List.length_append, List.length_singleton]
      omega
    · simp only [oldestPlace, Live.push, FrameStore.capacity_apply, List.length_append,
        List.length_singleton] at hreach ⊢
      omega
  previous := h.previous
  ascending := h.ascending
  found := h.found

theorem Following.fetch (h : l.Following d start) (hdue : l.Due) :
    (l.fetch d).Following d start := by
  obtain ⟨r, f, hr, hf, htime, hfound⟩ := h.exists_place hdue
  have hprevious : (l.outcome d).2.previous = some (l.outcome d).1.time :=
    Clock.previous_fetch_of_found (congrArg Fetch.isFound hfound)
  refine ⟨h.interval_pos, h.maxSteps_pos, h.capacity_pos, h.kept, ?_, hprevious, ?_, ?_⟩
  · intro p hp
    have hplace : p = l.slotOf start r := by
      rw [← htime]
      exact (Option.some.inj (hprevious.symm.trans hp)).symm
    exact ⟨r, (List.getElem?_eq_some_iff.mp hf).1, hplace, hr⟩
  · refine List.pairwise_cons.mpr ⟨fun s hs => ?_, h.ascending⟩
    cases hfetched : l.fetched with
    | nil =>
      rw [hfetched] at hs
      cases hs
    | cons last rest =>
      have hascending := h.ascending
      rw [hfetched] at hs hascending
      have hforward := (h.follows hdue).forward last.time (by rw [h.previous, hfetched]; rfl)
      rcases List.mem_cons.mp hs with rfl | hs
      · exact hforward
      · exact Nat.le_trans (List.rel_of_pairwise_cons hascending hs) hforward
  · intro s hs
    rcases List.mem_cons.mp hs with rfl | hs
    · rw [hfound]
      rfl
    · exact h.found s hs

theorem reachable_following (h : l.Reachable d start) : l.Following d start := by
  induction h with
  | start hempty hnew hinterval hsteps => exact following_start hempty hnew hinterval hsteps
  | push _ frame ih => exact ih.push frame
  | fetch _ hdue ih => exact ih.fetch hdue

/--
In every run all fetches find a frame, in an order in which no time comes before an earlier one.
The first fetch that is due comes to the newest frame, and every other to the one that follows the
last, as far as it is there: none is passed over that is there, and none comes again before
something newer that is there.
-/
theorem follows_live {d : DeviceId} {start : Nat} {l : Live β} (h : l.Reachable d start) :
    (l.fetched.Pairwise fun s s' => s'.time ≤ s.time) ∧
      (∀ s ∈ l.fetched, s.fetch.isFound = true) ∧
      l.clock.previous = l.fetched.head?.map Synced.time ∧
      (l.Due → l.Follows d start (l.outcome d).1) := by
  have hfollowing := reachable_following h
  exact ⟨hfollowing.ascending, hfollowing.found, hfollowing.previous, hfollowing.follows⟩

/-- Of three frames pushed between two fetches one is given up before the second. -/
theorem follows_live_overrun :
    ∃ l : Live Nat, l.Reachable ⟨1⟩ 1000 ∧ l.Due ∧ l.fetched.map Synced.time = [1020] ∧
      (l.outcome ⟨1⟩).1.time = 1040 ∧ l.Follows ⟨1⟩ 1000 (l.outcome ⟨1⟩).1 := by
  have hstart : Reachable (β := Nat) ⟨1⟩ 1000
      { store := (FrameStore.keeping 2).run [.add ⟨1⟩ "mic" none]
        clock := { interval := 10, maxSteps := 2 } } :=
    .start rfl rfl (by decide) (by decide)
  have hfirst := ((hstart.push 1).push 2).push 3
  have hsecond := (((hfirst.fetch ⟨by decide, .inl rfl⟩).push 4).push 5).push 6
  exact ⟨_, hsecond, ⟨by decide, .inr (by decide)⟩, by decide, by decide,
    (follows_live hsecond).2.2.2 ⟨by decide, .inr (by decide)⟩⟩

end Live

end MediaSession
