import MediaSession.Proofs.Capture.Drift
import MediaSession.Proofs.Capture.Jump

/-!
# MediaSession.Proofs.Capture.Phase

The phase of a device against the grid of a clock that has a baseline. Every time that the clock
asks for lies whole intervals from its baseline, and a frame is found at its exact time only.

* `Live.OffPhase`: frames and baseline lie a broken number of intervals apart, and stay so
* `resyncs_iff_in_phase`: a restart in phase is found again in time, any other never
-/

namespace MediaSession

namespace Live

variable {β : Type} {d : DeviceId} {start : Nat} {l : Live β}

/-- A time is off the phase of a feed if it lies between two of its slots, or would. -/
def OffSlots (start interval time : Nat) : Prop := ¬ (interval : Int) ∣ start - time

theorem OffSlots.not_mem_times {interval time n : Nat} (h : OffSlots start interval time)
    (frames : List β) : time ∉ (History.keep n (Pushes.feed start interval frames)).times := by
  intro hmem
  obtain ⟨k, -, -, rfl⟩ := Pushes.mem_times_keep_feed.mp hmem
  refine h ⟨-k, ?_⟩
  rw [slot]
  push_cast
  ring

/-- A fetch moves by whole intervals, as far as it may go. -/
theorem OffSlots.time_fetch {c : Clock} {p : Nat} (h : OffSlots start c.interval p)
    (hp : c.previous = some p) (device : Device β) :
    OffSlots start c.interval (c.fetch device d).1.time := by
  rintro ⟨n, hn⟩
  refine h ⟨n + (1 + (c.fetch device d).1.forward - (c.fetch device d).1.backward), ?_⟩
  rw [Clock.time_fetch, Clock.nextTime_of_previous hp] at hn
  push_cast at hn
  linear_combination hn

/-- A device that holds the newest of its feed, and a clock whose baseline is off its phase. -/
structure OffPhase (d : DeviceId) (start : Nat) (l : Live β) : Prop where
  interval_pos : 1 ≤ l.clock.interval
  kept : FrameStore.Kept l.store.capacity (l.store.track? d)
    (some (Pushes.feed start l.clock.interval l.pushed))
  off : ∃ p, l.clock.previous = some p ∧ OffSlots start l.clock.interval p

theorem OffPhase.push (h : l.OffPhase d start) (frame : β) :
    (l.push d start frame).OffPhase d start :=
  ⟨h.interval_pos, kept_push frame h.kept, h.off⟩

theorem OffPhase.time_outcome (h : l.OffPhase d start) :
    OffSlots start l.clock.interval (l.outcome d).1.time := by
  obtain ⟨p, hp, hoff⟩ := h.off
  exact hoff.time_fetch hp l.store.device

theorem OffPhase.isFound_outcome (h : l.OffPhase d start) :
    (l.outcome d).1.fetch.isFound = false := by
  obtain ⟨t, k, hroute⟩ := l.clock.exists_fetchRoute l.store.device d
  have hfetch : (l.outcome d).1.fetch = l.store.fetch d (l.outcome d).1.time := by
    rw [outcome, hroute.time]
    exact hroute.fetch
  have hascending : History.Ascending (Pushes.feed start l.clock.interval l.pushed) :=
    Pushes.ascending_feed h.interval_pos l.pushed
  rw [hfetch, FrameStore.fetch_of_kept h.kept, Pushes.total_feed h.interval_pos,
    History.fetch_of_not_mem (History.ascending_keep hascending _)
      (h.time_outcome.not_mem_times l.pushed)]
  rfl

theorem OffPhase.fetch (h : l.OffPhase d start) : (l.fetch d).OffPhase d start := by
  obtain ⟨p, hp, -⟩ := h.off
  exact ⟨h.interval_pos, h.kept, _, Clock.previous_fetch_of_baseline hp, h.time_outcome⟩

/-- By induction on the rounds: each leaves the phase as it was, and finds nothing. -/
theorem OffPhase.hits_rounds (h : l.OffPhase d start) (frames : List β) :
    (l.rounds d start frames).hits = l.hits ++ List.replicate frames.length false := by
  induction frames generalizing l with
  | nil => simp [rounds]
  | cons frame frames ih =>
    rw [rounds_cons, ih (h.push frame).fetch, hits_fetch, (h.push frame).isFound_outcome,
      List.append_assoc]
    rfl

/-! ## Restarts -/

theorem offPhase_clear (history : Nat) {p : Nat} {cs : List (Change β)} {clock : Clock}
    (hadded : (pushedSince d cs).isSome = true) (hinterval : 1 ≤ clock.interval)
    (hprevious : clock.previous = some p) (hoff : OffSlots start clock.interval p) :
    OffPhase d start { store := ((FrameStore.keeping history).run cs).apply (.clear d), clock } :=
  ⟨hinterval, (kept_clear history hadded).2, p, hprevious, hoff⟩

/-- The walks that leave a distance of whole intervals uncovered are no more than fit into it. -/
theorem misses_le_ceilDiv {interval maxSteps misses : Nat} {n : Int} (hinterval : 1 ≤ interval)
    (hsteps : 1 ≤ maxSteps) (hpaid : misses = 0 ∨ misses * maxSteps < (n - 1).natAbs) :
    misses ≤ (interval * n).natAbs ⌈/⌉ (interval * maxSteps) := by
  have hcovered : (interval * n).natAbs ≤
      (interval * maxSteps) • ((interval * n).natAbs ⌈/⌉ (interval * maxSteps)) :=
    (ceilDiv_le_iff_le_smul (Nat.mul_pos hinterval hsteps)).mp (Nat.le_refl _)
  rw [Int.natAbs_mul, Int.natAbs_natCast, smul_eq_mul, Nat.mul_assoc] at hcovered
  have hwalks := Nat.le_of_mul_le_mul_left hcovered hinterval
  rcases hpaid with rfl | hpaid
  · exact Nat.zero_le _
  · -- the clock jumps by an interval less than the distance, so by one more at most
    have hfew : misses * maxSteps ≤ n.natAbs := by omega
    rw [Int.natAbs_mul, Int.natAbs_natCast]
    refine Nat.le_of_mul_le_mul_left (Nat.le_trans ?_ hwalks) hsteps
    rwa [Nat.mul_comm]

end Live

/--
A clock that had a baseline finds a device that starts again just when it starts whole intervals
away from that baseline. Then a frame is found within two fetches more than the distance has full
walks, the last one rounded up; otherwise no fetch ever finds one.
-/
theorem resyncs_iff_in_phase {β : Type} {history p start : Nat} {cs : List (Change β)}
    {d : DeviceId} {clock : Clock} (hadded : (pushedSince d cs).isSome = true)
    (hinterval : 1 ≤ clock.interval) (hsteps : 1 ≤ clock.maxSteps)
    (hprevious : clock.previous = some p) (frames : List β) :
    let l : Live β := { store := ((FrameStore.keeping history).run cs).apply (.clear d), clock }
    let hits := (l.rounds d start frames).hits
    let bound := ((start : Int) - p).natAbs ⌈/⌉ (clock.interval * clock.maxSteps) + 2
    (bound ≤ frames.length → (true ∈ hits.take bound ↔ (clock.interval : Int) ∣ start - p)) ∧
      (¬ (clock.interval : Int) ∣ start - p → hits = List.replicate frames.length false) := by
  intro l hits bound
  have hnever : ¬ (clock.interval : Int) ∣ start - p →
      hits = List.replicate frames.length false :=
    fun hoff => (Live.offPhase_clear history hadded hinterval hprevious hoff).hits_rounds frames
  refine ⟨fun hlong => ⟨fun hhit => ?_, fun hphase => ?_⟩, hnever⟩
  · by_contra hoff
    rw [hnever hoff] at hhit
    exact Bool.noConfusion (List.eq_of_mem_replicate (List.mem_of_mem_take hhit))
  · obtain ⟨n, hn⟩ := hphase
    -- the next request is one interval on from the baseline already
    have hstart : (start : Int) = p + clock.interval + (n - 1) * clock.interval := by
      linear_combination hn
    have hwithin := Live.within_clear history hadded hinterval hprevious hstart
    obtain ⟨misses, found, hhits, hlength, hpaid⟩ := hwithin.hits_rounds frames
    have hsoon : misses + 1 < bound := by
      have hmisses := Live.misses_le_ceilDiv hinterval hsteps hpaid
      rw [← hn] at hmisses
      exact Nat.lt_succ_of_le (Nat.succ_le_succ hmisses)
    have hhits : hits = List.replicate misses false ++ List.replicate found true := hhits
    rw [hhits, List.take_append, List.take_replicate, List.take_replicate, List.length_replicate]
    refine List.mem_append_right _ (List.mem_replicate.mpr ⟨?_, rfl⟩)
    omega

/-- Six intervals take three walks of two, of which the last finds the device. -/
theorem resyncs_iff_in_phase_three_walks :
    let cs : List (Change Nat) := [.add ⟨1⟩ "mic" none, .push ⟨1⟩ 1000 0]
    let clock : Clock := { previous := some 1000, interval := 10, maxSteps := 2 }
    let l : Live Nat :=
      { store := ((FrameStore.keeping 1).run cs).apply (.clear ⟨1⟩), clock }
    (l.rounds ⟨1⟩ 1060 [1, 2, 3, 4, 5]).hits = [false, false, true, true, true] ∧
      true ∈ (l.rounds ⟨1⟩ 1060 [1, 2, 3, 4, 5]).hits.take 5 := by
  intro cs clock l
  obtain ⟨hbound, -⟩ := @resyncs_iff_in_phase Nat 1 1000 1060 cs ⟨1⟩ clock rfl (by decide)
    (by decide) rfl [1, 2, 3, 4, 5]
  have hfive : (((1060 : Nat) - (1000 : Nat) : Int).natAbs + clock.interval * clock.maxSteps - 1) /
      (clock.interval * clock.maxSteps) + 2 = 5 := by decide
  rw [Nat.ceilDiv_eq_add_pred_div, hfive] at hbound
  exact ⟨by decide, (hbound (by decide)).mpr (by decide)⟩

/-- Half an interval off, none of the three fetches finds a frame that the distance allows for. -/
theorem resyncs_iff_in_phase_not_half :
    let cs : List (Change Nat) := [.add ⟨1⟩ "mic" none, .push ⟨1⟩ 1000 0]
    let clock : Clock := { previous := some 1000, interval := 10, maxSteps := 64 }
    let l : Live Nat :=
      { store := ((FrameStore.keeping 20).run cs).apply (.clear ⟨1⟩), clock }
    ((1005 : Int) - 1000).natAbs ⌈/⌉ (clock.interval * clock.maxSteps) + 2 = 3 ∧
      true ∉ (l.rounds ⟨1⟩ 1005 [1, 2, 3]).hits.take 3 := by
  intro cs clock l
  rw [Nat.ceilDiv_eq_add_pred_div]
  decide

end MediaSession
