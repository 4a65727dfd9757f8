import Mathlib.Tactic.Ring
import MediaSession.Proofs.Capture.Walk

/-!
# MediaSession.Proofs.Capture.Drift

The baseline of a clock against the fetches that moved it. Each fetch moves it by one interval, by
one more for every step forward, and by one less for every step backward, whatever came of it.

* `Stride`: the interval and the steps of one fetch; `drift` is what a list of them comes to
* `Clock.run`, `Clock.strides`: a clock between changes of shape and fetches
* `Capture.run`, `Capture.strides`: a capture between ticks and messages; ticks that end before the
  device is asked have no stride
* `baseline_balanced`: the balance, for every run of either
-/

namespace MediaSession

structure Stride where
  interval : Nat
  forward : Nat
  backward : Nat
  /-- Whether it came to a frame. -/
  found : Bool
deriving DecidableEq

namespace Stride

def ofSynced {β : Type} (interval : Nat) (s : Synced β) : Stride :=
  ⟨interval, s.forward, s.backward, s.fetch.isFound⟩

/-- How far the baseline goes in it. -/
def length (s : Stride) : Int := s.interval * (1 + s.forward - s.backward)

end Stride

def drift (ss : List Stride) : Int := (ss.map Stride.length).sum

theorem drift_cons (s : Stride) (ss : List Stride) : drift (s :: ss) = s.length + drift ss := by
  simp [drift]

/-- Strides of one interval go as far as their number and their steps say. -/
theorem drift_of_interval {interval : Nat} {ss : List Stride}
    (h : ∀ s ∈ ss, s.interval = interval) :
    drift ss = interval *
      (ss.length + (ss.map Stride.forward).sum - (ss.map Stride.backward).sum) := by
  induction ss with
  | nil => simp [drift]
  | cons s ss ih =>
    have hs := h s List.mem_cons_self
    have hss := ih fun s' hs' => h s' (List.mem_cons_of_mem s hs')
    rw [drift_cons, hss, Stride.length, hs]
    simp only [List.length_cons, List.map_cons, List.sum_cons]
    push_cast
    ring

namespace Clock

variable {β : Type} {c : Clock} {device : Device β} {d : DeviceId}

/-! ## One fetch -/

/-- The steps of a fetch lead from its first time to its last. -/
theorem time_fetch (c : Clock) (device : Device β) (d : DeviceId) :
    ((c.fetch device d).1.time : Int) = c.nextTime (device.currentTime d) +
      c.interval * ((c.fetch device d).1.forward - (c.fetch device d).1.backward) := by
  obtain ⟨t, k, hroute⟩ := c.exists_fetchRoute device d
  have hfirst : t 0 = c.nextTime (device.currentTime d) := hroute.first
  rw [hroute.time, ← hfirst]
  cases hof : Heading.of? (device.answer d 0 (t 0)) with
  | none =>
    obtain ⟨rfl, hforward, hbackward⟩ := hroute.still hof
    simp [hforward, hbackward]
  | some h =>
    have hwalked := hroute.walked h hof
    cases h with
    | later =>
      have hforward : (c.fetch device d).1.forward = k := hwalked.steps
      have hbackward : (c.fetch device d).1.backward = 0 := hwalked.no_others .earlier (by simp)
      rw [hwalked.time_of_later k (Nat.le_refl k), hforward, hbackward]
      push_cast
      ring
    | earlier =>
      have hforward : (c.fetch device d).1.forward = 0 := hwalked.no_others .later (by simp)
      have hbackward : (c.fetch device d).1.backward = k := hwalked.steps
      rw [hwalked.time_of_earlier k (Nat.le_refl k), hforward, hbackward]
      push_cast
      ring

theorem previous_fetch_of_some (device : Device β) (d : DeviceId) {p : Nat}
    (hp : c.previous = some p) :
    ∃ q, (c.fetch device d).2.previous = some q ∧
      (q : Int) = p + (Stride.ofSynced c.interval (c.fetch device d).1).length := by
  refine ⟨(c.fetch device d).1.time, previous_fetch_of_baseline hp, ?_⟩
  rw [time_fetch, nextTime_of_previous hp, Stride.length, Stride.ofSynced]
  push_cast
  ring

theorem previous_fetch_of_none (hp : c.previous = none)
    (hfound : (c.fetch device d).1.fetch.isFound = false) :
    (c.fetch device d).2.previous = none := by
  have hbaseline : c.hasBaseline = false := by simp [hasBaseline, hp]
  rw [previous_fetch, hfound, hbaseline, Bool.or_false, if_neg Bool.false_ne_true, hp]

/-! ## Runs of a clock -/

/-- What is done to a clock, with any device each time. -/
inductive Use (β : Type) where
  | setShape (shape : FrameShape)
  | fetch (device : Device β) (d : DeviceId)

def apply (c : Clock) : Use β → Clock
  | .setShape shape => c.setShape shape
  | .fetch device d => (c.fetch device d).2

def run (c : Clock) (us : List (Use β)) : Clock := us.foldl apply c

/-- The fetches of a run, each with the interval that was in force. -/
def strides (c : Clock) : List (Use β) → List Stride
  | [] => []
  | .setShape shape :: us => (c.setShape shape).strides us
  | .fetch device d :: us =>
    .ofSynced c.interval (c.fetch device d).1 :: (c.fetch device d).2.strides us

theorem previous_run_of_some {p : Nat} (us : List (Use β)) (hp : c.previous = some p) :
    ∃ q, (c.run us).previous = some q ∧ (q : Int) = p + drift (c.strides us) := by
  induction us generalizing c p with
  | nil => exact ⟨p, hp, by simp [strides, drift]⟩
  | cons u us ih =>
    cases u with
    | setShape shape => exact ih (c := c.setShape shape) hp
    | fetch device d =>
      obtain ⟨q, hq, hbalance⟩ := previous_fetch_of_some device d hp
      obtain ⟨r, hr, hrest⟩ := ih hq
      refine ⟨r, hr, ?_⟩
      rw [strides, drift_cons, hrest, hbalance]
      ring

theorem previous_run_of_none (us : List (Use β)) (hp : c.previous = none)
    (hfound : ∀ s ∈ c.strides us, s.found = false) : (c.run us).previous = none := by
  induction us generalizing c with
  | nil => exact hp
  | cons u us ih =>
    cases u with
    | setShape shape => exact ih (c := c.setShape shape) hp hfound
    | fetch device d =>
      rw [strides] at hfound
      obtain ⟨hfirst, hrest⟩ := List.forall_mem_cons.mp hfound
      exact ih (previous_fetch_of_none hp hfirst) hrest

end Clock

namespace Capture

/-! ## Runs of a capture -/

/-- A tick with any device, samples and parameters, or a message. -/
inductive Event where
  | tick (device : Device Buffer) (pool : Pool) (enabled : Bool) (shape : FrameShape)
  | post (m : Command)

/-- A message that finds no room changes nothing. -/
def apply (c : Capture) : Event → Capture
  | .tick device pool enabled shape => (c.tickWith device pool enabled shape).capture
  | .post m => (c.post m).toOption.getD c

def run (c : Capture) (es : List Event) : Capture := es.foldl apply c

/-- The fetches of a run, each with the interval of its tick. -/
def strides (c : Capture) : List Event → List Stride
  | [] => []
  | .tick device pool enabled shape :: es =>
    let t := c.tickWith device pool enabled shape
    if c.failure.isSome || endsEarly t.result then t.capture.strides es
    else .ofSynced shape.interval (c.tickFetch device shape).1 :: t.capture.strides es
  | .post m :: es => (c.apply (.post m)).strides es

/-- A message comes into the queue, or nowhere. -/
theorem exists_apply_post (c : Capture) (m : Command) :
    ∃ q, c.apply (.post m) = { c with commands := q } := by
  rw [apply, post]
  cases c.commands.post m with
  | none => exact ⟨c.commands, rfl⟩
  | some q => exact ⟨q, rfl⟩

theorem rests_apply_post (c : Capture) (m : Command) : c.Rests (c.apply (.post m)) := by
  obtain ⟨q, hpost⟩ := c.exists_apply_post m
  rw [hpost]
  exact ⟨rfl, rfl, rfl, rfl⟩

/-- All ticks of a run have one shape. -/
def AllShaped (shape : FrameShape) (es : List Event) : Prop :=
  ∀ device pool enabled shape', Event.tick device pool enabled shape' ∈ es → shape' = shape

theorem AllShaped.tail {shape : FrameShape} {e : Event} {es : List Event}
    (h : AllShaped shape (e :: es)) : AllShaped shape es :=
  fun device pool enabled shape' hmem => h device pool enabled shape' (List.mem_cons_of_mem e hmem)

section Run

variable {c : Capture}

theorem previous_tickFetch_of_some (device : Device Buffer) (shape : FrameShape) {p : Nat}
    (hp : c.clock.previous = some p) :
    ∃ q, (c.tickFetch device shape).2.previous = some q ∧
      (q : Int) = p + (Stride.ofSynced shape.interval (c.tickFetch device shape).1).length :=
  Clock.previous_fetch_of_some device c.deviceId hp

theorem previous_run_of_some {p : Nat} (es : List Event) (hp : c.clock.previous = some p) :
    ∃ q, (c.run es).clock.previous = some q ∧ (q : Int) = p + drift (c.strides es) := by
  induction es generalizing c p with
  | nil => exact ⟨p, hp, by simp [strides, drift]⟩
  | cons e es ih =>
    cases e with
    | tick device pool enabled shape =>
      have hticked := ticked_tickWith c device pool enabled shape
      rcases hticked.rests_or_moves with ⟨hidle, -, hrests⟩ | ⟨hidle, -, -, hmoves⟩
      · rw [strides, if_pos hidle]
        exact ih (hrests.clock ▸ hp)
      · rw [strides, if_neg (by rw [hidle]; exact Bool.false_ne_true)]
        obtain ⟨q, hq, hbalance⟩ := previous_tickFetch_of_some device shape hp
        obtain ⟨r, hr, hrest⟩ := ih (hmoves.clock ▸ hq)
        refine ⟨r, hr, ?_⟩
        rw [drift_cons, hrest, hbalance]
        exact Int.add_assoc _ _ _
    | post m => exact ih ((c.rests_apply_post m).clock ▸ hp)

theorem previous_run_of_none (es : List Event) (hp : c.clock.previous = none)
    (hfound : ∀ s ∈ c.strides es, s.found = false) : (c.run es).clock.previous = none := by
  induction es generalizing c with
  | nil => exact hp
  | cons e es ih =>
    cases e with
    | tick device pool enabled shape =>
      have hticked := ticked_tickWith c device pool enabled shape
      rcases hticked.rests_or_moves with ⟨hidle, -, hrests⟩ | ⟨hidle, -, -, hmoves⟩
      · rw [strides, if_pos hidle] at hfound
        exact ih (hrests.clock ▸ hp) hfound
      · rw [strides, if_neg (by rw [hidle]; exact Bool.false_ne_true)] at hfound
        obtain ⟨hfirst, hrest⟩ := List.forall_mem_cons.mp hfound
        have hnone : (c.tickFetch device shape).2.previous = none :=
          Clock.previous_fetch_of_none hp hfirst
        exact ih (hmoves.clock ▸ hnone) hrest
    | post m => exact ih ((c.rests_apply_post m).clock ▸ hp) hfound

/-- The counters of a capture grow by the steps of its fetches. -/
theorem steps_run (c : Capture) (es : List Event) :
    (c.run es).counters.forwardSteps =
        c.counters.forwardSteps + ((c.strides es).map Stride.forward).sum ∧
      (c.run es).counters.backwardSteps =
        c.counters.backwardSteps + ((c.strides es).map Stride.backward).sum := by
  induction es generalizing c with
  | nil => exact ⟨rfl, rfl⟩
  | cons e es ih =>
    obtain ⟨ihforward, ihbackward⟩ := ih (c.apply e)
    have hrun : c.run (e :: es) = (c.apply e).run es := rfl
    rw [hrun, ihforward, ihbackward]
    cases e with
    | tick device pool enabled shape =>
      have hticked := ticked_tickWith c device pool enabled shape
      rcases hticked.rests_or_moves with ⟨hidle, -, hrests⟩ | ⟨hidle, -, -, hmoves⟩
      · rw [strides, if_pos hidle, apply, hrests.forward, hrests.backward]
        exact ⟨rfl, rfl⟩
      · rw [strides, if_neg (by rw [hidle]; exact Bool.false_ne_true), apply, hmoves.forward,
          hmoves.backward, List.map_cons, List.map_cons, List.sum_cons, List.sum_cons]
        exact ⟨Nat.add_assoc _ _ _, Nat.add_assoc _ _ _⟩
    | post m =>
      rw [strides, (c.rests_apply_post m).forward, (c.rests_apply_post m).backward]
      exact ⟨rfl, rfl⟩

theorem interval_strides {shape : FrameShape} {es : List Event} (h : AllShaped shape es) :
    ∀ s ∈ c.strides es, s.interval = shape.interval := by
  induction es generalizing c with
  | nil => simp [strides]
  | cons e es ih =>
    cases e with
    | tick device pool enabled shape' =>
      obtain rfl : shape' = shape := h device pool enabled shape' List.mem_cons_self
      rw [strides]
      split
      · exact ih h.tail
      · exact List.forall_mem_cons.mpr ⟨rfl, ih h.tail⟩
    | post m => exact ih h.tail

end Run

end Capture

/--
Over every run the baseline goes exactly as far as the intervals and steps of its fetches say, and
before a fetch has come to a frame there is none. In a capture only ticks that ask the device move
it, and with one shape for all of them its distance can be read off the counters.
-/
theorem baseline_balanced :
    (∀ {β : Type} (c : Clock) (us : List (Clock.Use β)),
      (∀ p, c.previous = some p →
        ∃ q, (c.run us).previous = some q ∧ (q : Int) = p + drift (c.strides us)) ∧
      (c.previous = none → (∀ s ∈ c.strides us, s.found = false) →
        (c.run us).previous = none)) ∧
    ∀ (c : Capture) (es : List Capture.Event),
      (∀ p, c.clock.previous = some p →
        ∃ q, (c.run es).clock.previous = some q ∧ (q : Int) = p + drift (c.strides es) ∧
          ∀ shape, Capture.AllShaped shape es →
            (q : Int) = p + shape.interval * ((c.strides es).length +
              ((c.run es).counters.forwardSteps - c.counters.forwardSteps) -
              ((c.run es).counters.backwardSteps - c.counters.backwardSteps))) ∧
      (c.run es).counters.forwardSteps =
        c.counters.forwardSteps + ((c.strides es).map Stride.forward).sum ∧
      (c.run es).counters.backwardSteps =
        c.counters.backwardSteps + ((c.strides es).map Stride.backward).sum ∧
      (c.clock.previous = none → (∀ s ∈ c.strides es, s.found = false) →
        (c.run es).clock.previous = none) := by
  refine ⟨fun c us => ⟨fun p hp => Clock.previous_run_of_some us hp,
    Clock.previous_run_of_none us⟩, fun c es => ?_⟩
  obtain ⟨hforward, hbackward⟩ := c.steps_run es
  refine ⟨fun p hp => ?_, hforward, hbackward, Capture.previous_run_of_none es⟩
  obtain ⟨q, hq, hbalance⟩ := Capture.previous_run_of_some es hp
  refine ⟨q, hq, hbalance, fun shape hshape => ?_⟩
  rw [hbalance, drift_of_interval (Capture.interval_strides hshape), hforward, hbackward]
  push_cast
  ring

/-- A device with one frame. -/
def lone (time : Nat) : Device Buffer where
  currentTime := fun _ => time
  answer := fun _ _ t =>
    if t = time then .found ⟨0⟩ else if t < time then .missing 1 0 else .missing 0 1
  sampleRate := fun _ => some 8000
  name := fun _ => none

/-- Three steps forward, a disabled tick, and a frame that comes again after one step back. -/
theorem baseline_balanced_lone :
    let c : Clock := { interval := 10, maxSteps := 64 }
    let missed : List (Clock.Use Buffer) := [.fetch Capture.turning ⟨1⟩, .setShape ⟨160, 8000⟩]
    let uses : List (Clock.Use Buffer) := [.fetch (lone 1040) ⟨1⟩, .setShape ⟨160, 8000⟩,
      .fetch (lone 1040) ⟨1⟩]
    let k : Capture :=
      { name := "mic", deviceId := ⟨1⟩, wired := true, settings := {}, clock := c
        converter := ⟨8000, 8000⟩, commands := { depth := 32 } }
    let k₁ := k.run [.tick (lone 1000) .empty true ⟨80, 8000⟩]
    let es : List Capture.Event := [.tick (lone 1040) .empty true ⟨80, 8000⟩, .post .disable,
      .tick (lone 1050) .empty true ⟨80, 8000⟩, .post .enable,
      .tick (lone 1040) .empty true ⟨80, 8000⟩]
    (c.run missed).previous = none ∧
      (∃ q : Nat, (Clock.run { c with previous := some 1000 } uses).previous = some q ∧
        (q : Int) = 1000 + drift [⟨10, 3, 0, true⟩, ⟨20, 0, 1, true⟩]) ∧
      (k.run [.tick Capture.turning .empty true ⟨80, 8000⟩]).clock.previous = none ∧
      k₁.clock.previous = some 1000 ∧
      ∃ q : Nat, (k₁.run es).clock.previous = some q ∧
        (q : Int) = 1000 + drift [⟨10, 3, 0, true⟩, ⟨10, 0, 1, true⟩] ∧
        (q : Int) = 1000 + 10 * (2 + (3 - 0) - (1 - 0)) := by
  intro c missed uses k k₁ es
  have hmissed : c.strides missed = [⟨10, 1, 0, false⟩] := by decide
  have hlost : k.strides [.tick Capture.turning .empty true ⟨80, 8000⟩] =
      [⟨10, 1, 0, false⟩] := by decide
  have hprevious : k₁.clock.previous = some 1000 := by decide
  have huses : Clock.strides { c with previous := some 1000 } uses =
      [⟨10, 3, 0, true⟩, ⟨20, 0, 1, true⟩] := by decide
  have hstrides : k₁.strides es = [⟨10, 3, 0, true⟩, ⟨10, 0, 1, true⟩] := by decide
  have hshape : Capture.AllShaped ⟨80, 8000⟩ es := by
    intro device pool enabled shape h
    simp only [es, List.mem_cons, Capture.Event.tick.injEq, reduceCtorEq, List.not_mem_nil,
      false_or, or_false] at h
    rcases h with ⟨-, -, -, h⟩ | ⟨-, -, -, h⟩ | ⟨-, -, -, h⟩ <;> exact h
  have hclock := (baseline_balanced.1 { c with previous := some 1000 } uses).1 1000 rfl
  rw [huses] at hclock
  obtain ⟨q, hq, hdrift, hcounted⟩ := (baseline_balanced.2 k₁ es).1 1000 hprevious
  have hcounted := hcounted ⟨80, 8000⟩ hshape
  have hforward : (k₁.run es).counters.forwardSteps = 3 := by decide
  have hbackward : (k₁.run es).counters.backwardSteps = 1 := by decide
  have hinterval : (FrameShape.mk 80 8000).interval = 10 := by decide
  rw [hstrides] at hdrift hcounted
  rw [hforward, hbackward, hinterval] at hcounted
  exact ⟨(baseline_balanced.1 c missed).2 rfl (by simp [hmissed]), hclock,
    (baseline_balanced.2 k _).2.2.2 rfl (by simp [hlost]), hprevious, q, hq, hdrift, hcounted⟩

end MediaSession
