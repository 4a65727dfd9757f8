import MediaSession.Proofs.Capture.Runs

/-!
# MediaSession.Proofs.Capture.Walk

How a clock walks toward the frames of a device about which nothing is assumed: each answer may
contradict the one before.

* `Route`: the times and answers of a walk, and why it ended; every walk has one (`exists_route`)
* `FetchRoute`: the same of a whole fetch, in the one direction that the first answer points to
  (`exists_fetchRoute`)
* `requests_one_way`: every fetch goes one way, and the ticks of a reachable capture make such
  fetches with a positive interval
-/

namespace MediaSession

/-- The side on which the frames lie that a miss speaks of. -/
inductive Heading
  | later
  | earlier
deriving DecidableEq

namespace Heading

variable {β : Type}

def pointed : Heading → Fetch β → Bool
  | later => Fetch.isBehind
  | earlier => Fetch.isAhead

def of? (f : Fetch β) : Option Heading :=
  if f.isBehind then some later else if f.isAhead then some earlier else none

/-- The second time lies one interval further this way. -/
def Onward (interval : Nat) : Heading → Nat → Nat → Prop
  | later, s, t => t = s + interval
  | earlier, s, t => s = t + interval

def steps : Heading → Synced β → Nat
  | later, s => s.forward
  | earlier, s => s.backward

def next (c : Clock) : Heading → Nat → Option Nat
  | later => c.later
  | earlier => c.earlier

def synced : Heading → Walk β → Synced β
  | later, w =>
    { time := w.time, fetch := w.fetch, forward := w.steps, requests := w.asked.reverse }
  | earlier, w =>
    { time := w.time, fetch := w.fetch, backward := w.steps, requests := w.asked.reverse }

@[simp] theorem synced_time (h : Heading) (w : Walk β) : (h.synced w).time = w.time := by
  cases h <;> rfl

@[simp] theorem synced_fetch (h : Heading) (w : Walk β) : (h.synced w).fetch = w.fetch := by
  cases h <;> rfl

@[simp] theorem synced_requests (h : Heading) (w : Walk β) :
    (h.synced w).requests = w.asked.reverse := by
  cases h <;> rfl

@[simp] theorem steps_synced (h : Heading) (w : Walk β) : h.steps (h.synced w) = w.steps := by
  cases h <;> rfl

theorem steps_with_requests (h : Heading) (s : Synced β) (requests : List FrameTime) :
    h.steps { s with requests } = h.steps s := by
  cases h <;> rfl

theorem steps_synced_of_ne {h h' : Heading} (hne : h' ≠ h) (w : Walk β) :
    h'.steps (h.synced w) = 0 := by
  cases h with
  | later =>
    cases h' with
    | later => exact absurd rfl hne
    | earlier => rfl
  | earlier =>
    cases h' with
    | later => rfl
    | earlier => exact absurd rfl hne

theorem onward_of_next {c : Clock} {h : Heading} {s t : Nat} (hst : h.next c s = some t) :
    h.Onward c.interval s t := by
  cases h with
  | later => exact (Option.some.inj hst).symm
  | earlier =>
    simp only [next, Clock.earlier] at hst
    split at hst
    · rename_i hle
      have ht := Option.some.inj hst
      simp only [Onward]
      omega
    · cases hst

theorem eq_earlier_of_next_eq_none {c : Clock} {h : Heading} {t : Nat}
    (ht : h.next c t = none) : h = earlier ∧ t < c.interval := by
  cases h with
  | later => cases ht
  | earlier =>
    simp only [next, Clock.earlier] at ht
    split at ht
    · cases ht
    · exact ⟨rfl, by omega⟩

end Heading

/-- Where a walk comes to that goes on for `k` steps. -/
def Walk.along {β : Type} (w : Walk β) (t : Nat → Nat) (a : Nat → Fetch β) (k : Nat) :
    Walk β where
  time := t k
  fetch := a k
  steps := w.steps + k
  asked := ((List.range k).map fun i => t (i + 1)).reverse ++ w.asked

namespace Clock

variable {β : Type}

/-- A walk of `k` steps through the times `t`, with the answers `a`. -/
structure Route (answer : Nat → Nat → Fetch β) (pointsOn : Fetch β → Bool)
    (next : Nat → Option Nat) (limit : Nat) (w : Walk β) (t : Nat → Nat)
    (a : Nat → Fetch β) (k : Nat) : Prop where
  start_time : t 0 = w.time
  start_fetch : a 0 = w.fetch
  le_limit : k ≤ limit
  onward : ∀ i < k, next (t i) = some (t (i + 1))
  answered : ∀ i < k, a (i + 1) = answer (w.steps + (i + 1)) (t (i + 1))
  pointed : ∀ i < k, pointsOn (a i) = true
  stopped : pointsOn (a k) = false ∨ k = limit ∨ next (t k) = none

section Route

variable {answer : Nat → Nat → Fetch β} {pointsOn : Fetch β → Bool}
  {next : Nat → Option Nat} {limit : Nat} {w : Walk β}

theorem Route.still (h : pointsOn w.fetch = false ∨ 0 = limit ∨ next w.time = none) :
    Route answer pointsOn next limit w (fun _ => w.time) (fun _ => w.fetch) 0 where
  start_time := rfl
  start_fetch := rfl
  le_limit := Nat.zero_le _
  onward := fun _ hi => absurd hi (Nat.not_lt_zero _)
  answered := fun _ hi => absurd hi (Nat.not_lt_zero _)
  pointed := fun _ hi => absurd hi (Nat.not_lt_zero _)
  stopped := h

theorem Route.cons {time : Nat} {t : Nat → Nat} {a : Nat → Fetch β} {k : Nat}
    (hpoint : pointsOn w.fetch = true) (hnext : next w.time = some time)
    (h : Route answer pointsOn next limit
      { time, fetch := answer (w.steps + 1) time, steps := w.steps + 1, asked := time :: w.asked }
      t a k) :
    Route answer pointsOn next (limit + 1) w (fun | 0 => w.time | i + 1 => t i)
      (fun | 0 => w.fetch | i + 1 => a i) (k + 1) where
  start_time := rfl
  start_fetch := rfl
  le_limit := Nat.succ_le_succ h.le_limit
  onward := by
    intro i hi
    cases i with
    | zero => simpa [h.start_time] using hnext
    | succ i => exact h.onward i (Nat.lt_of_succ_lt_succ hi)
  answered := by
    intro i hi
    cases i with
    | zero => simp [h.start_time, h.start_fetch]
    | succ i =>
      have ha := h.answered i (Nat.lt_of_succ_lt_succ hi)
      rw [Nat.add_right_comm] at ha
      exact ha
  pointed := by
    intro i hi
    cases i with
    | zero => exact hpoint
    | succ i => exact h.pointed i (Nat.lt_of_succ_lt_succ hi)
  stopped := by
    rcases h.stopped with hfetch | hlimit | hend
    · exact .inl hfetch
    · exact .inr (.inl (congrArg (· + 1) hlimit))
    · exact .inr (.inr hend)

theorem along_cons {time : Nat} {t : Nat → Nat} {a : Nat → Fetch β} (fetch : Fetch β)
    (ht : t 0 = time) (k : Nat) :
    ({ time, fetch, steps := w.steps + 1, asked := time :: w.asked } : Walk β).along t a k =
      w.along (fun | 0 => w.time | i + 1 => t i) (fun | 0 => w.fetch | i + 1 => a i) (k + 1) := by
  simp only [Walk.along, List.range_succ_eq_map, List.map_cons, List.map_map, List.reverse_cons,
    List.append_assoc, List.singleton_append, ht, Nat.add_assoc, Nat.add_comm 1 k]
  rfl

/-- Every walk has a route, by induction on the steps that are left. -/
theorem exists_route (answer : Nat → Nat → Fetch β) (pointsOn : Fetch β → Bool)
    (next : Nat → Option Nat) (limit : Nat) (w : Walk β) :
    ∃ t a k, Route answer pointsOn next limit w t a k ∧
      walk answer pointsOn next limit w = w.along t a k := by
  induction limit generalizing w with
  | zero => exact ⟨_, _, 0, .still (.inr (.inl rfl)), rfl⟩
  | succ limit ih =>
    unfold walk
    cases hpoint : pointsOn w.fetch with
    | false => exact ⟨_, _, 0, .still (.inl hpoint), rfl⟩
    | true =>
      cases hnext : next w.time with
      | none => exact ⟨_, _, 0, .still (.inr (.inr hnext)), rfl⟩
      | some time =>
        obtain ⟨t, a, k, hroute, hwalk⟩ := ih
          { time, fetch := answer (w.steps + 1) time, steps := w.steps + 1,
            asked := time :: w.asked }
        refine ⟨_, _, k + 1, .cons hpoint hnext hroute, ?_⟩
        simp only [if_true, hwalk]
        exact along_cons _ hroute.start_time k

end Route

/-! ## A whole fetch -/

/-- A walk of `k` steps this way, from the first answer of a fetch. -/
structure Walked (c : Clock) (device : Device β) (d : DeviceId) (s : Synced β) (t : Nat → Nat)
    (k : Nat) (h : Heading) : Prop where
  onward : ∀ i < k, h.Onward c.interval (t i) (t (i + 1))
  pointed : ∀ i < k, h.pointed (device.answer d i (t i)) = true
  stopped : h.pointed (device.answer d k (t k)) = false ∨ k = c.maxSteps ∨
    h = .earlier ∧ t k < c.interval
  steps : h.steps s = k
  no_others : ∀ h', h' ≠ h → h'.steps s = 0

/-- A fetch that asks for the times `t 0`, ..., `t k`, in the way the first answer points. -/
structure FetchRoute (c : Clock) (device : Device β) (d : DeviceId) (s : Synced β) (t : Nat → Nat)
    (k : Nat) : Prop where
  requests : s.requests = (List.range (k + 1)).map t
  first : t 0 = match c.previous with
    | some p => p + c.interval
    | none => device.currentTime d
  time : s.time = t k
  fetch : s.fetch = device.answer d k (t k)
  le_maxSteps : k ≤ c.maxSteps
  still : Heading.of? (device.answer d 0 (t 0)) = none → k = 0 ∧ s.forward = 0 ∧ s.backward = 0
  walked : ∀ h, Heading.of? (device.answer d 0 (t 0)) = some h → c.Walked device d s t k h

theorem resolve_fst (c : Clock) (answer : Nat → Nat → Fetch β) (time : Nat) (fetch : Fetch β) :
    (c.resolve answer time fetch).1 =
      match Heading.of? fetch with
      | some h => h.synced (walk answer h.pointed (h.next c) c.maxSteps { time, fetch })
      | none => { time, fetch } := by
  unfold resolve Heading.of?
  dsimp only
  split
  · rfl
  · split <;> rfl

section Walked

variable {c : Clock} {device : Device β} {d : DeviceId} {h : Heading} {first : Nat}
  {t : Nat → Nat} {a : Nat → Fetch β} {k : Nat}

theorem Route.answer_eq
    (hroute : Route (device.answer d) h.pointed (h.next c) c.maxSteps
      { time := first, fetch := device.answer d 0 first } t a k) :
    ∀ i ≤ k, a i = device.answer d i (t i) := by
  intro i hi
  cases i with
  | zero => rw [hroute.start_fetch, hroute.start_time]
  | succ i =>
    rw [hroute.answered i hi]
    exact congrArg (device.answer d · (t (i + 1))) (Nat.zero_add (i + 1))

theorem Route.walked
    (hroute : Route (device.answer d) h.pointed (h.next c) c.maxSteps
      { time := first, fetch := device.answer d 0 first } t a k)
    {s : Synced β} (hsteps : h.steps s = k) (hothers : ∀ h', h' ≠ h → h'.steps s = 0) :
    c.Walked device d s t k h where
  onward := fun i hi => Heading.onward_of_next (hroute.onward i hi)
  pointed := fun i hi => by
    rw [← hroute.answer_eq i (Nat.le_of_lt hi)]
    exact hroute.pointed i hi
  stopped := by
    rw [← hroute.answer_eq k (Nat.le_refl k)]
    rcases hroute.stopped with hturned | hlimit | hend
    · exact .inl hturned
    · exact .inr (.inl hlimit)
    · exact .inr (.inr (Heading.eq_earlier_of_next_eq_none hend))
  steps := hsteps
  no_others := hothers

/-- A walk from the first answer makes a route of the whole fetch. -/
theorem Route.fetchRoute
    (hroute : Route (device.answer d) h.pointed (h.next c) c.maxSteps
      { time := first, fetch := device.answer d 0 first } t a k)
    (hof : Heading.of? (device.answer d 0 first) = some h)
    (hfirst : c.nextTime (device.currentTime d) = first) {w : Walk β}
    (hw : w = ({ time := first, fetch := device.answer d 0 first } : Walk β).along t a k) :
    c.FetchRoute device d { h.synced w with requests := first :: (h.synced w).requests } t k := by
  have ht : t 0 = first := hroute.start_time
  subst hw
  refine ⟨?_, ht.trans hfirst.symm, by simp [Walk.along], ?_, hroute.le_limit, ?_, ?_⟩
  · simp [Walk.along, List.range_succ_eq_map, ht, Function.comp_def]
  · simpa [Walk.along] using hroute.answer_eq k (Nat.le_refl k)
  · intro hnone
    rw [ht, hof] at hnone
    cases hnone
  · intro h' hh'
    rw [ht, hof] at hh'
    cases hh'
    refine hroute.walked ?_ fun h' hne => ?_
    · rw [Heading.steps_with_requests, Heading.steps_synced]
      exact Nat.zero_add k
    · rw [Heading.steps_with_requests, Heading.steps_synced_of_ne hne]

end Walked

/-- Every fetch has a route, whatever the device answers. -/
theorem exists_fetchRoute (c : Clock) (device : Device β) (d : DeviceId) :
    ∃ t k, c.FetchRoute device d (c.fetch device d).1 t k := by
  let first := c.nextTime (device.currentTime d)
  let fetch := device.answer d 0 first
  have hfetch : (c.fetch device d).1 =
      { (c.resolve (device.answer d) first fetch).1 with
        requests := first :: (c.resolve (device.answer d) first fetch).1.requests } := rfl
  rw [hfetch, resolve_fst]
  cases hof : Heading.of? fetch with
  | none =>
    refine ⟨fun _ => first, 0, rfl, rfl, rfl, rfl, Nat.zero_le _, fun _ => ⟨rfl, rfl, rfl⟩, ?_⟩
    intro h hh
    rw [hof] at hh
    cases hh
  | some h =>
    obtain ⟨t, a, k, hroute, hwalk⟩ := exists_route (device.answer d) h.pointed (h.next c)
      c.maxSteps { time := first, fetch }
    exact ⟨t, k, hroute.fetchRoute hof rfl hwalk⟩

theorem nextTime_of_previous {c : Clock} {p : Nat} (hp : c.previous = some p) (newest : Nat) :
    c.nextTime newest = p + c.interval := by
  rw [nextTime, hp]

/-- The last time asked for is the new baseline, once there is one or a frame has been found. -/
theorem previous_fetch (c : Clock) (device : Device β) (d : DeviceId) :
    (c.fetch device d).2.previous =
      if (c.fetch device d).1.fetch.isFound || c.hasBaseline then
        some (c.fetch device d).1.time
      else c.previous := rfl

theorem previous_fetch_of_found {c : Clock} {device : Device β} {d : DeviceId}
    (hfound : (c.fetch device d).1.fetch.isFound = true) :
    (c.fetch device d).2.previous = some (c.fetch device d).1.time := by
  rw [previous_fetch, hfound, Bool.true_or, if_pos rfl]

theorem previous_fetch_of_baseline {c : Clock} {device : Device β} {d : DeviceId} {p : Nat}
    (hp : c.previous = some p) :
    (c.fetch device d).2.previous = some (c.fetch device d).1.time := by
  have hbaseline : c.hasBaseline = true := by simp [hasBaseline, hp]
  rw [previous_fetch, hbaseline, Bool.or_true, if_pos rfl]

section Walked

variable {c : Clock} {device : Device β} {d : DeviceId} {s : Synced β} {t : Nat → Nat} {k : Nat}

theorem Walked.time_of_later (h : c.Walked device d s t k .later) :
    ∀ i ≤ k, t i = t 0 + i * c.interval := by
  intro i
  induction i with
  | zero => intro _; simp
  | succ i ih =>
    intro hi
    have honward : t (i + 1) = t i + c.interval := h.onward i hi
    rw [honward, ih (Nat.le_of_succ_le hi), Nat.succ_mul, Nat.add_assoc]

theorem Walked.time_of_earlier (h : c.Walked device d s t k .earlier) :
    ∀ i ≤ k, t 0 = t i + i * c.interval := by
  intro i
  induction i with
  | zero => intro _; simp
  | succ i ih =>
    intro hi
    have honward : t i = t (i + 1) + c.interval := h.onward i hi
    rw [ih (Nat.le_of_succ_le hi), honward, Nat.succ_mul]
    omega

theorem FetchRoute.length_requests (h : c.FetchRoute device d s t k) :
    s.requests.length ≤ c.maxSteps + 1 := by
  rw [h.requests, List.length_map, List.length_range]
  exact Nat.succ_le_succ h.le_maxSteps

end Walked

end Clock

namespace Capture

/-- What a tick of a reachable capture asks for, it asks for in one fetch by positive intervals. -/
theorem requests_tickWith {c : Capture} (hc : c.Sound) (device : Device Buffer) (pool : Pool)
    (enabled : Bool) (shape : FrameShape) :
    (c.tickWith device pool enabled shape).requests = [] ∨
      ∃ clock : Clock, 1 ≤ clock.interval ∧ clock.maxSteps = c.settings.maxSteps.toNat ∧
        (c.tickWith device pool enabled shape).requests =
          (clock.fetch device c.deviceId).1.requests := by
  rcases (ticked_tickWith c device pool enabled shape).rests_or_moves with
    ⟨-, hnone, -⟩ | ⟨-, hshape, hrequests, -⟩
  · exact .inl hnone
  · exact .inr ⟨c.clock.setShape shape, FrameShape.interval_pos hshape, hc.maxSteps_eq, hrequests⟩

/--
Every fetch goes one way, whatever the device answers: it starts one interval after the baseline,
walks in the direction of the first answer alone, and ends where the answers turn, where the steps
run out or before time zero. A reachable capture has a positive interval, and each of its ticks
makes at most one such fetch, of no more requests than the step limit and one.
-/
theorem requests_one_way :
    (∀ {β : Type} (clock : Clock) (device : Device β) (d : DeviceId),
      ∃ t k, clock.FetchRoute device d (clock.fetch device d).1 t k) ∧
    ∀ c : Capture, c.Reachable → 1 ≤ c.clock.interval ∧
      ∀ (device : Device Buffer) (pool : Pool) (enabled : Bool) (shape : FrameShape),
        let requests := (c.tickWith device pool enabled shape).requests
        requests.length ≤ c.settings.maxSteps.toNat + 1 ∧
          (requests = [] ∨ ∃ clock : Clock, 1 ≤ clock.interval ∧
            clock.maxSteps = c.settings.maxSteps.toNat ∧
            requests = (clock.fetch device c.deviceId).1.requests) := by
  refine ⟨Clock.exists_fetchRoute, fun c hc => ⟨(reachable_sound hc).interval_pos, ?_⟩⟩
  intro device pool enabled shape requests
  have hrequests : requests = [] ∨ ∃ clock : Clock, 1 ≤ clock.interval ∧
      clock.maxSteps = c.settings.maxSteps.toNat ∧
      requests = (clock.fetch device c.deviceId).1.requests :=
    requests_tickWith (reachable_sound hc) device pool enabled shape
  refine ⟨?_, hrequests⟩
  rcases hrequests with hnone | ⟨clock, -, hmaxSteps, hfetch⟩
  · simp [hnone]
  · obtain ⟨t, k, hroute⟩ := clock.exists_fetchRoute device c.deviceId
    rw [hfetch, ← hmaxSteps]
    exact hroute.length_requests

/-- A device that first speaks of later frames, and then of earlier ones. -/
def turning : Device Buffer where
  currentTime := fun _ => 1000
  answer := fun _ n _ => if n = 0 then .missing 3 0 else .missing 0 3
  sampleRate := fun _ => some 8000
  name := fun _ => none

/-- A new capture walks one step toward the later frames, and stops as the answer turns. -/
theorem requests_one_way_turning :
    ∃ c : Capture, ofSettings "mic" ⟨1⟩ true {} = .ok c ∧ c.Reachable ∧ 1 ≤ c.clock.interval ∧
      (c.tickWith turning .empty true c.settings.shape).requests = [1000, 1010] ∧
      (c.tickWith turning .empty true c.settings.shape).requests.length ≤ 65 := by
  obtain ⟨c, hc⟩ : ∃ c, ofSettings "mic" ⟨1⟩ true {} = .ok c := ⟨_, rfl⟩
  have hreachable : c.Reachable := .start hc
  obtain ⟨hinterval, hticks⟩ := requests_one_way.2 c hreachable
  obtain ⟨hlength, -⟩ := hticks turning .empty true c.settings.shape
  refine ⟨c, hc, hreachable, hinterval, ?_, ?_⟩
  · cases hc
    decide
  · cases hc
    exact hlength

end Capture
end MediaSession
