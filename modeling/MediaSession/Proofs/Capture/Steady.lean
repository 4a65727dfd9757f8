import MediaSession.Proofs.Capture.Runs

/-!
# MediaSession.Proofs.Capture.Steady

A capture with nothing in its way: each of its ticks asks the device, and what the device answers
is delivered or dropped.

* `Capture.Steady`: such a capture; a new one that is wired is one
* `Capture.Turns`, `Steady.turns`: all that a tick does to it, with a device whose rate is known
-/

namespace MediaSession

namespace Capture

/-- A capture that works, is switched on and has no messages waiting. -/
structure Steady (c : Capture) : Prop where
  failure : c.failure = none
  wired : c.wired = true
  enabled : c.enabled = true
  waiting : c.commands.waiting = []
  shape : c.settings.shape.fault? = none
  maxSteps_pos : 1 ≤ c.clock.maxSteps

theorem steady_ofSettings {name : String} {d : DeviceId} {settings : CaptureSettings}
    {c : Capture} (h : ofSettings name d true settings = .ok c) : c.Steady := by
  unfold ofSettings CaptureSettings.check at h
  cases hfault : settings.fault? with
  | some fault => simp [hfault] at h
  | none =>
    simp only [hfault] at h
    cases h
    unfold CaptureSettings.fault? at hfault
    split at hfault
    · cases hfault
    · rename_i hshape
      refine ⟨rfl, rfl, rfl, rfl, hshape, ?_⟩
      split at hfault
      · cases hfault
      · rename_i hsteps
        show 1 ≤ settings.maxSteps.toNat
        rw [Nat.one_le_iff_ne_zero]
        exact fun hzero => hsteps (UInt32.toNat_inj.mp hzero)

theorem rate_ne_zero {shape : FrameShape} (h : shape.fault? = none) : shape.rate ≠ 0 := by
  intro hzero
  rw [FrameShape.fault?, if_pos hzero] at h
  split at h <;> cases h

/-- A tick that makes one fetch, and counts it as delivered or dropped. -/
structure Turns (c : Capture) (device : Device Buffer) (c' : Capture) : Prop where
  steady : c'.Steady
  settings : c'.settings = c.settings
  deviceId : c'.deviceId = c.deviceId
  clock : c'.clock = (c.tickFetch device c.settings.shape).2
  delivered : c'.counters.delivered = c.counters.delivered +
    (c.tickFetch device c.settings.shape).1.fetch.isFound.toNat
  dropped : c'.counters.dropped = c.counters.dropped +
    (!(c.tickFetch device c.settings.shape).1.fetch.isFound).toNat

theorem Steady.opened_eq {c : Capture} (h : c.Steady) :
    c.opened =
      { c with
        commands := c.commands.emptied
        counters := { c.counters with ticks := c.counters.ticks + 1 } } := by
  rw [opened, drain_eq, h.waiting]
  rfl

theorem Steady.turns {c : Capture} (h : c.Steady) {device : Device Buffer} {rate : UInt32}
    (hrate : device.sampleRate c.deviceId = some rate) (hne : rate ≠ 0) {pool : Pool} {t : Tick}
    (hticked : Ticked c device pool true c.settings.shape t) : c.Turns device t.capture := by
  have hon : (true && c.drain.enabled) = true := by
    rw [drain_eq, h.waiting]
    exact h.enabled
  cases hticked with
  | latched hlatched =>
    rw [h.failure] at hlatched
    cases hlatched
  | disabled _ hoff =>
    rw [hon] at hoff
    cases hoff
  | invalid _ _ hshape =>
    rw [h.shape] at hshape
    cases hshape
  | notWired _ _ _ hwired =>
    rw [h.wired] at hwired
    cases hwired
  | taken _ _ _ _ htaken =>
    rw [h.opened_eq] at htaken
    have hsteady : ∀ c' : Capture, c'.failure = c.failure → c'.wired = c.wired →
        c'.enabled = c.enabled → c'.commands.waiting = [] → c'.settings = c.settings →
        c'.clock.maxSteps = c.clock.maxSteps → c'.Steady := by
      intro c' hfailure hwired henabled hwaiting hsettings hmaxSteps
      exact ⟨hfailure.trans h.failure, hwired.trans h.wired, henabled.trans h.enabled, hwaiting,
        hsettings ▸ h.shape, hmaxSteps ▸ h.maxSteps_pos⟩
    cases htaken with
    | missed hframe =>
      have hmissed : (c.tickFetch device c.settings.shape).1.fetch.isFound = false :=
        congrArg Option.isSome hframe
      exact ⟨hsteady _ rfl rfl rfl rfl rfl rfl, rfl, rfl, rfl, by rw [hmissed]; rfl,
        by rw [hmissed]; rfl⟩
    | rateless _ hnone =>
      rw [hrate] at hnone
      cases hnone
    | unconverted _ hsome hfault =>
      obtain rfl : rate = _ := Option.some.inj (hrate.symm.trans hsome)
      have hconverts := fault?_of_convertBuffer hfault
      rw [RateConverter.fault?, if_neg (not_or_intro hne (rate_ne_zero h.shape))] at hconverts
      cases hconverts
    | produced hframe =>
      have hfound : (c.tickFetch device c.settings.shape).1.fetch.isFound = true :=
        congrArg Option.isSome hframe
      exact ⟨hsteady _ rfl rfl rfl rfl rfl rfl, rfl, rfl, rfl, by rw [hfound]; rfl,
        by rw [hfound]; rfl⟩

end Capture

end MediaSession
