import MediaSession.Proofs.Capture.Ticks

/-!
# MediaSession.Proofs.Capture.Runs

The states a capture can come to, whatever devices it is ticked with and whatever messages it is
sent, and what an event does to the clock.

* `Capture.Step`, `Capture.Reachable`: one event, and all that can come of a new capture
* `Capture.Rests`, `Capture.Moves`: an event that leaves the clock alone, or makes one fetch
* `Ticked.rests_or_moves`: which of the two a tick does, told by its result
* `Capture.Sound`, `reachable_sound`: the clock of a reachable capture has a positive interval and
  the step limit of the settings
-/

namespace MediaSession
namespace Capture

/-- A tick with any device, samples and parameters, or a message that found room. -/
inductive Step : Capture → Capture → Prop where
  | tick (c : Capture) (device : Device Buffer) (pool : Pool) (enabled : Bool)
      (shape : FrameShape) : Step c (c.tickWith device pool enabled shape).capture
  | post {c c' : Capture} (m : Command) : c.post m = .ok c' → Step c c'

inductive Reachable : Capture → Prop where
  | start {name : String} {d : DeviceId} {wired : Bool} {settings : CaptureSettings}
      {c : Capture} : ofSettings name d wired settings = .ok c → Reachable c
  | next {c c' : Capture} : Reachable c → Step c c' → Reachable c'

/-! ## The clock -/

/-- The fetch of a tick with a shape, as the clock makes it. -/
def tickFetch (c : Capture) (device : Device Buffer) (shape : FrameShape) :
    Synced Buffer × Clock :=
  (c.clock.setShape shape).fetch device c.deviceId

/-- The results of ticks that end before the device is asked. -/
def endsEarly : Except Fault TickYield → Bool
  | .ok .disabled => true
  | .error (.invalidSettings _) => true
  | .error (.notWired _) => true
  | _ => false

/-- An event that leaves the clock and the counts of steps alone. -/
structure Rests (c c' : Capture) : Prop where
  settings : c'.settings = c.settings
  clock : c'.clock = c.clock
  forward : c'.counters.forwardSteps = c.counters.forwardSteps
  backward : c'.counters.backwardSteps = c.counters.backwardSteps

/-- An event that moves the clock on by one fetch, and counts its steps. -/
structure Moves (c : Capture) (device : Device Buffer) (shape : FrameShape) (c' : Capture) :
    Prop where
  settings : c'.settings = c.settings
  clock : c'.clock = (c.tickFetch device shape).2
  forward : c'.counters.forwardSteps =
    c.counters.forwardSteps + (c.tickFetch device shape).1.forward
  backward : c'.counters.backwardSteps =
    c.counters.backwardSteps + (c.tickFetch device shape).1.backward

section Tick

variable {c : Capture} {device : Device Buffer} {pool : Pool} {enabled : Bool}
  {shape : FrameShape} {t : Tick}

theorem rests_opened (c : Capture) : c.Rests c.opened := by
  rw [opened, drain_eq]
  exact ⟨rfl, rfl, rfl, rfl⟩

theorem moves_fetch_opened (c : Capture) (device : Device Buffer) (shape : FrameShape) :
    (c.opened.fetch device shape).1.requests = (c.tickFetch device shape).1.requests ∧
      c.Moves device shape (c.opened.fetch device shape).2 := by
  rw [opened, drain_eq]
  exact ⟨rfl, rfl, rfl, rfl, rfl⟩

theorem Taken.endsEarly_eq_false (h : Taken c device shape pool t) :
    endsEarly t.result = false := by
  cases h with
  | missed hframe => rfl
  | rateless hframe hrate hfault =>
    subst hfault
    rfl
  | unconverted hframe hrate hfault =>
    obtain rfl := eq_conversion_of_convertBuffer hfault
    rfl
  | produced hframe hrate hconverted => rfl

theorem Taken.rests (h : Taken c device shape pool t) :
    t.requests = (c.fetch device shape).1.requests ∧ (c.fetch device shape).2.Rests t.capture := by
  cases h <;> exact ⟨rfl, rfl, rfl, rfl, rfl⟩

/-- A tick makes one fetch, unless its result says that it ended early, or came from a latch. -/
theorem Ticked.rests_or_moves (h : Ticked c device pool enabled shape t) :
    (c.failure.isSome || endsEarly t.result) = true ∧ t.requests = [] ∧ c.Rests t.capture ∨
      (c.failure.isSome || endsEarly t.result) = false ∧ shape.fault? = none ∧
        t.requests = (c.tickFetch device shape).1.requests ∧ c.Moves device shape t.capture := by
  have hrests := c.rests_opened
  cases h with
  | latched hfailure => exact .inl ⟨by rw [hfailure]; rfl, rfl, rfl, rfl, rfl, rfl⟩
  | disabled hfailure hoff => exact .inl ⟨by rw [hfailure]; rfl, rfl, hrests⟩
  | invalid hfailure hon hshape => exact .inl ⟨by rw [hfailure]; rfl, rfl, hrests⟩
  | notWired hfailure hon hshape hwired hfault =>
    subst hfault
    refine .inl ⟨by rw [hfailure]; rfl, rfl, ?_⟩
    exact ⟨hrests.settings, hrests.clock, hrests.forward, hrests.backward⟩
  | taken hfailure hon hshape hwired htaken =>
    obtain ⟨hasked, hmoves⟩ := c.moves_fetch_opened device shape
    obtain ⟨hrequests, htail⟩ := htaken.rests
    refine .inr ⟨by rw [hfailure, htaken.endsEarly_eq_false]; rfl, hshape,
      hrequests.trans hasked, ?_, ?_, ?_, ?_⟩
    · exact htail.settings.trans hmoves.settings
    · exact htail.clock.trans hmoves.clock
    · exact htail.forward.trans hmoves.forward
    · exact htail.backward.trans hmoves.backward

end Tick

theorem rests_post {c c' : Capture} {m : Command} (h : c.post m = .ok c') : c.Rests c' := by
  unfold post at h
  split at h
  · cases h
    exact ⟨rfl, rfl, rfl, rfl⟩
  · cases h

/-! ## Reachable captures -/

/-- The clock goes by positive intervals, and no further than the settings allow. -/
structure Sound (c : Capture) : Prop where
  interval_pos : 1 ≤ c.clock.interval
  maxSteps_eq : c.clock.maxSteps = c.settings.maxSteps.toNat

theorem sound_ofSettings {name : String} {d : DeviceId} {wired : Bool}
    {settings : CaptureSettings} {c : Capture} (h : ofSettings name d wired settings = .ok c) :
    c.Sound := by
  unfold ofSettings CaptureSettings.check at h
  cases hfault : settings.fault? with
  | some fault => simp [hfault] at h
  | none =>
    have hshape : settings.shape.fault? = none := by
      unfold CaptureSettings.fault? at hfault
      cases hs : settings.shape.fault? with
      | some fault => simp [hs] at hfault
      | none => rfl
    simp only [hfault] at h
    cases h
    exact ⟨FrameShape.interval_pos hshape, rfl⟩

theorem sound_step {c c' : Capture} (h : c.Sound) (hstep : Step c c') : c'.Sound := by
  have hrested : ∀ {c'}, c.Rests c' → c'.Sound := fun hrests =>
    ⟨by rw [hrests.clock]; exact h.interval_pos,
      by rw [hrests.clock, hrests.settings]; exact h.maxSteps_eq⟩
  cases hstep with
  | tick device pool enabled shape =>
    rcases (ticked_tickWith c device pool enabled shape).rests_or_moves with
      ⟨-, -, hrests⟩ | ⟨-, hshape, -, hmoves⟩
    · exact hrested hrests
    · have hinterval : (c.tickFetch device shape).2.interval = shape.interval := rfl
      have hmaxSteps : (c.tickFetch device shape).2.maxSteps = c.clock.maxSteps := rfl
      refine ⟨?_, ?_⟩
      · rw [hmoves.clock, hinterval]
        exact FrameShape.interval_pos hshape
      · rw [hmoves.clock, hmoves.settings, hmaxSteps]
        exact h.maxSteps_eq
  | post m hpost => exact hrested (rests_post hpost)

theorem reachable_sound {c : Capture} (h : Reachable c) : c.Sound := by
  induction h with
  | start hc => exact sound_ofSettings hc
  | next _ hstep ih => exact sound_step ih hstep

end Capture
end MediaSession
