import MediaSession.Proofs.Capture.Arrival

/-!
# MediaSession.Proofs.Capture.Distance

One fetch from a frame store in closed form: how far the clock walks is told by the time it asks
for first and by the oldest and the newest time that are stored, wherever the others lie.

* `Clock.fetchAt`: a fetch that asks for any given time first
* `Covers`: the steps of a fetch, the time it comes to, and the frame it delivers
* `fetch_covers_distance`: this holds of every frame store, for every clock and every time
-/

namespace MediaSession

namespace Clock

variable {β : Type}

/-- Asks for the frame at a time, and goes on asking while that helps. -/
def fetchAt (c : Clock) (device : Device β) (d : DeviceId) (time : Nat) : Synced β × Clock :=
  let (synced, c) := c.resolve (device.answer d) time (device.answer d 0 time)
  ({ synced with requests := time :: synced.requests }, c)

theorem fetch_eq_fetchAt (c : Clock) (device : Device β) (d : DeviceId) :
    c.fetch device d = c.fetchAt device d (c.nextTime (device.currentTime d)) := rfl

/-- How a walk goes does not depend on the baseline. -/
theorem resolve_reset (c : Clock) (answer : Nat → Nat → Fetch β) (time : Nat) (fetch : Fetch β) :
    (c.reset.resolve answer time fetch).1 = (c.resolve answer time fetch).1 := by
  rw [resolve_fst, resolve_fst]
  cases Heading.of? fetch with
  | none => rfl
  | some h => cases h <;> rfl

/-- What a device says of its newest frame settles what a clock without baseline asks for. -/
theorem exists_route_fetchAt (c : Clock) (device : Device β) (d : DeviceId) (time : Nat) :
    ∃ t k, t 0 = time ∧
      c.reset.FetchRoute { device with currentTime := fun _ => time } d
        (c.fetchAt device d time).1 t k := by
  obtain ⟨t, k, hroute⟩ := c.reset.exists_fetchRoute { device with currentTime := fun _ => time } d
  have hsame : (c.reset.fetch { device with currentTime := fun _ => time } d).1 =
      (c.fetchAt device d time).1 := by
    have hwalk := c.resolve_reset (device.answer d) time (device.answer d 0 time)
    exact congrArg (fun synced : Synced β =>
      { synced with requests := time :: synced.requests }) hwalk
  rw [hsame] at hroute
  exact ⟨t, k, hroute.first, hroute⟩

end Clock

/--
A fetch that asks for time `r` first, of a device with the frames `h`. It comes to that time if a
frame is stored there, if it lies between stored times, or if nothing is stored. From before the
oldest time it walks forward, and from after the newest back, until it has covered the distance to
that time, however far beyond that brings it, or has no steps left, or stands less than an
interval from time zero. What it delivers is the frame stored at the time it comes to.
-/
structure Covers {β : Type} (c : Clock) (h : History β) (r : Nat) (s : Synced β) : Prop where
  frame : ∀ frame, s.fetch.frame? = some frame ↔ (s.time, frame) ∈ h
  stored : r ∈ h.times → s.Ends r 0 0 ∧ s.fetch.isFound = true
  missed : h = [] ∨ h.oldest < r ∧ r < h.newest ∧ r ∉ h.times →
    s.Ends r 0 0 ∧ s.fetch.isFound = false
  before : r < h.oldest →
    let k := min c.maxSteps ((h.oldest - r) ⌈/⌉ c.interval)
    s.Ends (r + k * c.interval) k 0
  after : h ≠ [] → h.newest < r →
    let k := min (min c.maxSteps ((r - h.newest) ⌈/⌉ c.interval)) (r / c.interval)
    s.Ends (r - k * c.interval) 0 k

/-- The baseline counts for the time asked for first only. -/
theorem Covers.of_reset {β : Type} {c : Clock} {h : History β} {r : Nat} {s : Synced β}
    (hcovers : Covers c.reset h r s) : Covers c h r s where
  frame := hcovers.frame
  stored := hcovers.stored
  missed := hcovers.missed
  before := hcovers.before
  after := hcovers.after

section Covers

variable {β : Type} {device : Device β} {d : DeviceId} {h : History β} {c : Clock} {s : Synced β}
  {t : Nat → Nat} {n : Nat}

theorem Answers.covers (hanswers : Answers device d h) (hroute : c.FetchRoute device d s t n)
    (hinterval : 1 ≤ c.interval) : Covers c h (t 0) s where
  frame := fun _ => hanswers.frame?_eq_some_iff hroute
  stored := by
    intro hstored
    obtain ⟨e, he, heq⟩ := List.mem_map.mp hstored
    have hends := hanswers.ends_among hroute (heq ▸ History.oldest_le hanswers.ascending he)
      (heq ▸ History.le_newest hanswers.ascending he)
    refine ⟨hends, (hanswers.isFound_iff hroute).mpr ?_⟩
    rw [hends.time]
    exact hstored
  missed := by
    rintro (hnil | ⟨hbefore, hafter, hnot⟩)
    · exact absurd hnil hanswers.ne_nil
    · have hends := hanswers.ends_among hroute (Nat.le_of_lt hbefore) (Nat.le_of_lt hafter)
      refine ⟨hends, ?_⟩
      rw [Bool.eq_false_iff, ne_eq, hanswers.isFound_iff hroute, hends.time]
      exact hnot
  before := hanswers.ends_before hroute hinterval
  after := fun _ => hanswers.ends_after hroute hinterval

/-- A device that finds nothing and points nowhere leaves the clock where it is. -/
theorem Clock.FetchRoute.covers_nil (hroute : c.FetchRoute device d s t n)
    (hof : Heading.of? (device.answer d 0 (t 0)) = none)
    (hframe : (device.answer d 0 (t 0)).frame? = none) : Covers c [] (t 0) s := by
  obtain ⟨rfl, hforward, hbackward⟩ := hroute.still hof
  rw [← hroute.fetch] at hframe
  refine ⟨?_, ?_, ?_, ?_, ?_⟩
  · intro frame
    simp [hframe]
  · intro hstored
    cases hstored
  · intro _
    exact ⟨⟨hroute.time, hforward, hbackward⟩, congrArg Option.isSome hframe⟩
  · intro hlt
    cases hlt
  · intro hne
    exact absurd rfl hne

end Covers

namespace FrameStore

variable {β : Type} {s : FrameStore β} {d : DeviceId}

theorem ascending_frames_run (history : Nat) (cs : List (Change β)) (d : DeviceId) :
    History.Ascending (((keeping history).run cs).frames d) := by
  have hkept := kept_keeping history cs d
  cases hps : pushedSince d cs with
  | none =>
    have htrack : ((keeping history).run cs).track? d = none := by
      rw [hps] at hkept
      exact Option.map_eq_none_iff.mp hkept
    simp [frames, htrack, History.Ascending]
  | some ps =>
    rw [hps] at hkept
    rw [frames_of_kept hkept]
    exact History.ascending_keep (Pushes.ascending_total ps) _

theorem fetch_of_frames_ne_nil (hne : s.frames d ≠ []) (t : Nat) :
    s.fetch d t = (s.frames d).fetch t := by
  cases htrack : s.track? d with
  | none => simp [frames, htrack] at hne
  | some track => simp [fetch, frames, htrack]

/-- Whether the device is not there or has no frames, nothing is found and nothing points on. -/
theorem fetch_of_frames_nil (hnil : s.frames d = []) (t : Nat) :
    Heading.of? (s.fetch d t) = none ∧ (s.fetch d t).frame? = none := by
  cases htrack : s.track? d with
  | none =>
    simp only [fetch, htrack]
    exact ⟨rfl, rfl⟩
  | some track =>
    have hframes : track.frames = [] := by simpa [frames, htrack] using hnil
    simp only [fetch, htrack, hframes]
    exact ⟨rfl, rfl⟩

theorem covers_fetchAt (hs : History.Ascending (s.frames d)) {c : Clock}
    (hinterval : 1 ≤ c.interval) (r : Nat) :
    Covers c (s.frames d) r (c.fetchAt s.device d r).1 := by
  obtain ⟨t, k, rfl, hroute⟩ := c.exists_route_fetchAt s.device d r
  by_cases hne : s.frames d = []
  · obtain ⟨hof, hframe⟩ := fetch_of_frames_nil hne (t 0)
    rw [hne]
    exact (hroute.covers_nil hof hframe).of_reset
  · have hanswers : Answers { s.device with currentTime := fun _ => t 0 } d (s.frames d) :=
      ⟨hne, hs, fun _ u => fetch_of_frames_ne_nil hne u⟩
    exact (hanswers.covers hroute hinterval).of_reset

end FrameStore

/--
After any changes of a frame store, a fetch covers the distance to the frames of its device, from
whatever time it starts. It starts at the time after the baseline, or at the newest frame, which
a clock without baseline so finds at once.
-/
theorem fetch_covers_distance {β : Type} {clock : Clock} (hinterval : 1 ≤ clock.interval)
    (history : Nat) (cs : List (Change β)) (d : DeviceId) :
    let s := (FrameStore.keeping history).run cs
    let h := s.frames d
    (∀ r, Covers clock h r (clock.fetchAt s.device d r).1) ∧
      clock.fetch s.device d = clock.fetchAt s.device d (clock.nextTime h.newest) ∧
      (clock.previous = none → h ≠ [] →
        (clock.fetch s.device d).1.Ends h.newest 0 0 ∧
          (clock.fetch s.device d).1.fetch.isFound = true) := by
  intro s h
  have hs : h.Ascending := FrameStore.ascending_frames_run history cs d
  have hcovers : ∀ r, Covers clock h r (clock.fetchAt s.device d r).1 := fun r =>
    FrameStore.covers_fetchAt hs hinterval r
  refine ⟨hcovers, rfl, ?_⟩
  intro hnew hne
  have hstart : clock.fetch s.device d = clock.fetchAt s.device d h.newest := by
    rw [Clock.fetch_eq_fetchAt, Clock.nextTime, hnew]
    rfl
  obtain ⟨f, hnewest⟩ := History.exists_newest hne
  rw [hstart]
  exact (hcovers h.newest).stored (List.mem_map_of_mem hnewest)

/-- From 33 before the oldest frame four steps of ten lead into the gap after it. -/
theorem fetch_covers_distance_gap :
    let cs : List (Change Nat) :=
      [.add ⟨1⟩ "mic" none, .push ⟨1⟩ 1021 2, .push ⟨1⟩ 1003 1, .push ⟨1⟩ 1050 3]
    let clock : Clock := { previous := some 960, interval := 10, maxSteps := 64 }
    let synced := (clock.fetch ((FrameStore.keeping 8).run cs).device ⟨1⟩).1
    1 ≤ clock.interval ∧ synced.Ends 1010 4 0 ∧ synced.fetch.isFound = false := by
  intro cs clock synced
  have hinterval : 1 ≤ clock.interval := by decide
  obtain ⟨hcovers, -, -⟩ := fetch_covers_distance hinterval 8 cs ⟨1⟩
  have hends := (hcovers 970).before (by decide)
  rw [Nat.ceilDiv_eq_add_pred_div] at hends
  exact ⟨hinterval, ⟨hends.time.trans (by decide), hends.forward.trans (by decide),
    hends.backward⟩, by decide⟩

end MediaSession
