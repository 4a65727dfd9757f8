import MediaSession.Capture.Basic

/-!
# MediaSession.Proofs.Capture.Ticks

What one tick can come to, said once for everything that is proved of runs of ticks.

* `drain_eq`: waiting messages leave the gain and the switch that the last of their kind set
* `Capture.Taken`: the four ways in which an enabled tick of a capture that works ends
* `Capture.Ticked`, `ticked_tickWith`: these, and the four ways in which a tick ends before it asks
  the device; each with its result, its requests and all that it leaves
-/

namespace MediaSession

namespace Command

/-- The gain that the last message about it sets. -/
def lastGain? (ms : List Command) : Option Gain :=
  ms.reverse.findSome? fun
    | setGain gain => some gain
    | _ => none

/-- What the last message that switches the capture on or off asks for. -/
def lastSwitch? (ms : List Command) : Option Bool :=
  ms.reverse.findSome? fun
    | enable => some true
    | disable => some false
    | setGain _ => none

theorem lastGain?_append (ms ns : List Command) :
    lastGain? (ms ++ ns) = (lastGain? ns).or (lastGain? ms) := by
  rw [lastGain?, List.reverse_append, List.findSome?_append]
  rfl

theorem lastSwitch?_append (ms ns : List Command) :
    lastSwitch? (ms ++ ns) = (lastSwitch? ns).or (lastSwitch? ms) := by
  rw [lastSwitch?, List.reverse_append, List.findSome?_append]
  rfl

end Command

namespace Capture

open Command

/-! ## Messages -/

/-- A capture with a gain and a switch of its own, and no messages waiting. -/
def governed (c : Capture) (gain : Gain) (enabled : Bool) : Capture :=
  { c with
    amplifier := c.amplifier.withGain gain
    enabled := enabled
    commands := c.commands.emptied }

theorem foldl_obey_eq (c : Capture) (ms : List Command) :
    ms.foldl obey c =
      { c with
        amplifier := c.amplifier.withGain ((lastGain? ms).getD c.amplifier.gain)
        enabled := (lastSwitch? ms).getD c.enabled } := by
  induction ms generalizing c with
  | nil => rfl
  | cons m ms ih =>
    rw [List.foldl_cons, ih, ← List.singleton_append, lastGain?_append, lastSwitch?_append]
    cases m with
    | setGain gain =>
      cases h : lastGain? ms <;> simp [lastGain?, lastSwitch?, obey, Amplifier.withGain]
    | enable => simp [lastGain?, lastSwitch?, obey]
    | disable => simp [lastGain?, lastSwitch?, obey]

theorem drain_eq (c : Capture) :
    c.drain = c.governed ((lastGain? c.commands.waiting).getD c.amplifier.gain)
      ((lastSwitch? c.commands.waiting).getD c.enabled) := by
  rw [drain, foldl_obey_eq]
  rfl

/-! ## An enabled tick -/

/-- A change of rates is seen in the converter and in one count. -/
theorem setRates_eq (c : Capture) (input output : UInt32) :
    ∃ n, c.setRates input output =
      { c with
        converter := ⟨input, output⟩
        counters := { c.counters with reconfigurations := n } } := by
  unfold setRates RateConverter.setRates
  by_cases h : (⟨input, output⟩ : RateConverter) = c.converter
  · refine ⟨c.counters.reconfigurations, ?_⟩
    simp [h]
  · refine ⟨c.counters.reconfigurations + 1, ?_⟩
    simp [h, count]

theorem fault?_of_convertBuffer {r : RateConverter} {pool : Pool} {b : Buffer} {fault : Fault}
    (h : r.convertBuffer pool b = .error fault) : r.fault? = some fault := by
  unfold RateConverter.convertBuffer at h
  split at h
  · rename_i hfault
    cases h
    exact hfault
  · split at h <;> cases h

theorem eq_conversion_of_convertBuffer {r : RateConverter} {pool : Pool} {b : Buffer}
    {fault : Fault} (h : r.convertBuffer pool b = .error fault) :
    fault = .conversion r.inputRate r.outputRate "sample rate must be greater than 0" := by
  have hrates := fault?_of_convertBuffer h
  unfold RateConverter.fault? at hrates
  split at hrates
  · cases hrates
    rfl
  · cases hrates

/-- The ways in which an enabled tick ends that may ask the device. -/
inductive Taken (c : Capture) (device : Device Buffer) (shape : FrameShape) (pool : Pool) :
    Tick → Prop where
  | missed (hframe : (c.fetch device shape).1.fetch.frame? = none) :
      Taken c device shape pool
        { result := .error (c.missed (c.fetch device shape).1)
          requests := (c.fetch device shape).1.requests
          capture := (c.fetch device shape).2.drop
          pool }
  | rateless {frame : Buffer} {fault : Fault}
      (hframe : (c.fetch device shape).1.fetch.frame? = some frame)
      (hrate : device.sampleRate c.deviceId = none)
      (hfault : fault = .rateUnavailable c.deviceId
        ((device.name c.deviceId).getD "Unknown device")) :
      Taken c device shape pool
        { result := .error fault
          requests := (c.fetch device shape).1.requests
          capture := ((c.fetch device shape).2.drop).fail fault
          pool := (pool.share frame).release frame }
  | unconverted {frame : Buffer} {rate : UInt32} {fault : Fault} {n : Nat}
      (hframe : (c.fetch device shape).1.fetch.frame? = some frame)
      (hrate : device.sampleRate c.deviceId = some rate)
      (hfault : (RateConverter.mk rate shape.rate).convertBuffer (pool.share frame) frame =
        .error fault) :
      Taken c device shape pool
        { result := .error fault
          requests := (c.fetch device shape).1.requests
          capture :=
            { (c.fetch device shape).2.drop with
              converter := ⟨rate, shape.rate⟩
              counters :=
                { (c.fetch device shape).2.drop.counters with reconfigurations := n } }
          pool := (pool.share frame).release frame }
  | produced {frame out : Buffer} {rate : UInt32} {pool' : Pool} {n : Nat}
      (hframe : (c.fetch device shape).1.fetch.frame? = some frame)
      (hrate : device.sampleRate c.deviceId = some rate)
      (hconverted : (RateConverter.mk rate shape.rate).convertBuffer (pool.share frame) frame =
        .ok (out, pool')) :
      Taken c device shape pool
        { result := .ok (.produced (c.amplifier.apply pool' out shape.samples.toNat).1)
          requests := (c.fetch device shape).1.requests
          capture :=
            { (c.fetch device shape).2.deliver with
              converter := ⟨rate, shape.rate⟩
              amplifier := (c.amplifier.apply pool' out shape.samples.toNat).2.1
              counters :=
                { (c.fetch device shape).2.deliver.counters with reconfigurations := n } }
          pool := (c.amplifier.apply pool' out shape.samples.toNat).2.2 }

theorem taken_take (c : Capture) (device : Device Buffer) (shape : FrameShape) (pool : Pool) :
    Taken c device shape pool (c.take device shape pool) := by
  unfold take
  dsimp only
  split
  · rename_i hframe
    exact .missed hframe
  · rename_i frame hframe
    unfold process
    split
    · rename_i hrate
      exact .rateless hframe hrate rfl
    · rename_i rate hrate
      obtain ⟨n, hrates⟩ := setRates_eq (c.fetch device shape).2 rate shape.rate
      simp only [hrates]
      cases hconverted :
        (RateConverter.mk rate shape.rate).convertBuffer (pool.share frame) frame with
      | error fault => exact .unconverted hframe hrate hconverted
      | ok p =>
        obtain ⟨out, pool'⟩ := p
        exact .produced hframe hrate hconverted

/-! ## Any tick -/

/-- The capture after the messages, with the tick counted. -/
def opened (c : Capture) : Capture := c.drain.count fun n => { n with ticks := n.ticks + 1 }

theorem enabled_opened (c : Capture) : c.opened.enabled = c.drain.enabled := rfl

theorem wired_opened (c : Capture) : c.opened.wired = c.wired := by
  rw [opened, drain_eq]
  rfl

theorem deviceId_opened (c : Capture) : c.opened.deviceId = c.deviceId := by
  rw [opened, drain_eq]
  rfl

theorem converter_opened (c : Capture) : c.opened.converter = c.converter := by
  rw [opened, drain_eq]
  rfl

theorem counters_opened (c : Capture) :
    c.opened.counters = { c.counters with ticks := c.counters.ticks + 1 } := by
  rw [opened, drain_eq]
  rfl

/-- The ways in which a tick ends, in the order in which they are looked for. -/
inductive Ticked (c : Capture) (device : Device Buffer) (pool : Pool) (enabled : Bool)
    (shape : FrameShape) : Tick → Prop where
  | latched {fault : Fault} (hfailure : c.failure = some fault) :
      Ticked c device pool enabled shape { result := .error fault, capture := c, pool }
  | disabled (hfailure : c.failure = none) (hoff : (enabled && c.drain.enabled) = false) :
      Ticked c device pool enabled shape { result := .ok .disabled, capture := c.opened, pool }
  | invalid {fault : SettingsFault} (hfailure : c.failure = none)
      (hon : (enabled && c.drain.enabled) = true) (hshape : shape.fault? = some fault) :
      Ticked c device pool enabled shape
        { result := .error (.invalidSettings fault), capture := c.opened, pool }
  | notWired {fault : Fault} (hfailure : c.failure = none)
      (hon : (enabled && c.drain.enabled) = true) (hshape : shape.fault? = none)
      (hwired : c.wired = false) (hfault : fault = .notWired "input device buffer") :
      Ticked c device pool enabled shape
        { result := .error fault, capture := c.opened.fail fault, pool }
  | taken {t : Tick} (hfailure : c.failure = none) (hon : (enabled && c.drain.enabled) = true)
      (hshape : shape.fault? = none) (hwired : c.wired = true)
      (htaken : Taken c.opened device shape pool t) : Ticked c device pool enabled shape t

theorem ticked_tickWith (c : Capture) (device : Device Buffer) (pool : Pool) (enabled : Bool)
    (shape : FrameShape) :
    Ticked c device pool enabled shape (c.tickWith device pool enabled shape) := by
  unfold tickWith
  split
  · rename_i fault hfailure
    exact .latched hfailure
  · rename_i hfailure
    change Ticked _ _ _ _ _ (if !enabled || !c.opened.enabled then _ else _)
    rw [enabled_opened, ← Bool.not_and]
    cases hon : enabled && c.drain.enabled with
    | false => exact .disabled hfailure hon
    | true =>
      simp only [Bool.not_true, Bool.false_eq_true, if_false]
      split
      · rename_i fault hshape
        exact .invalid hfailure hon hshape
      · rename_i hshape
        split
        · rename_i hwired
          exact .taken hfailure hon hshape (c.wired_opened.symm.trans hwired) (taken_take _ _ _ _)
        · rename_i hwired
          have hunwired : c.wired = false := by
            rw [← c.wired_opened]
            exact Bool.eq_false_iff.mpr hwired
          exact .notWired hfailure hon hshape hunwired rfl

end Capture
end MediaSession
