import MediaSession.Device.FrameStore
import MediaSession.Proofs.Audio.Passing
import MediaSession.Proofs.Capture.Walk

/-!
# MediaSession.Proofs.Capture.Isolation

What a produced frame holds, and that to produce it changes no frame in the keeping of others: of
the device, or of whoever was given a frame before.

* `Capture.Produces`, `Capture.Leaves`: one tick, the frame it made and what it left to others
* `Custody`, `Custody.Step`, `Custody.Reachable`: a capture among others who keep frames, share
  them, give them up and write to them
* `reachable_counted`: the invariant; the capture itself keeps no frame from one tick to the next
* `produced_isolated`: the samples of a frame, whom it shares them with, and what all others read
-/

namespace MediaSession

/-! ## A tick -/

def Tick.frame? (t : Tick) : Option Buffer :=
  match t.result with
  | .ok (.produced frame) => some frame
  | _ => none

namespace Clock

/-- A fetch comes to the answer to its last request. -/
theorem fetch_eq_answer {β : Type} (c : Clock) (device : Device β) (d : DeviceId) :
    ∃ time, (c.fetch device d).1.requests.getLast? = some time ∧
      (c.fetch device d).1.fetch =
        device.answer d ((c.fetch device d).1.requests.length - 1) time := by
  obtain ⟨t, k, hroute⟩ := c.exists_fetchRoute device d
  refine ⟨t k, ?_, ?_⟩
  · rw [hroute.requests, List.range_succ, List.map_append]
    simp
  · rw [hroute.fetch, hroute.requests]
    simp

end Clock

namespace Capture

variable {c : Capture} {device : Device Buffer} {pool : Pool} {enabled : Bool}
  {shape : FrameShape} {t : Tick} {held : List Buffer}

/-- A frame that a tick produced, against the frame it was made from. -/
structure Produces (c : Capture) (device : Device Buffer) (pool : Pool) (shape : FrameShape)
    (t : Tick) (out frame : Buffer) (rate : UInt32) : Prop where
  /-- The device gave the frame as the answer to the last request. -/
  asked : ∃ time, t.requests.getLast? = some time ∧
    (device.answer c.deviceId (t.requests.length - 1) time).frame? = some frame
  rate_eq : device.sampleRate c.deviceId = some rate
  samples_eq : t.pool.samples out = c.amplifier.gain.scaled shape.samples.toNat
    ((RateConverter.mk rate shape.rate).converted (pool.samples frame))
  eq_iff : out = frame ↔ rate = shape.rate ∧ c.amplifier.gain = Gain.unity

/-- What a tick leaves to others: the frame it produced, and all they held before. -/
structure Leaves (pool : Pool) (held : List Buffer) (t : Tick) : Prop where
  counted : t.pool.Counted (t.frame?.toList ++ held)
  others : ∀ b ∈ held, t.pool.samples b = pool.samples b

/-- Every frame that a device answers with is held. -/
def Stored (c : Capture) (device : Device Buffer) (held : List Buffer) : Prop :=
  ∀ asked time frame, (device.answer c.deviceId asked time).frame? = some frame → frame ∈ held

theorem Stored.mem (h : c.Stored device held) {frame : Buffer}
    (hframe : (c.fetch device shape).1.fetch.frame? = some frame) : frame ∈ held := by
  obtain ⟨time, -, hanswer⟩ := (c.clock.setShape shape).fetch_eq_answer device c.deviceId
  have hfetch : (c.fetch device shape).1.fetch =
      device.answer c.deviceId ((c.fetch device shape).1.requests.length - 1) time := hanswer
  rw [hfetch] at hframe
  exact h _ time frame hframe

theorem leaves_release {result : Except Fault TickYield} {requests : List FrameTime}
    {frame : Buffer} (hcounted : pool.Counted held) (hframe : frame ∈ held)
    (hnone : (Tick.mk result requests c ((pool.share frame).release frame)).frame? = none) :
    Leaves pool held ⟨result, requests, c, (pool.share frame).release frame⟩ := by
  have hshared := hcounted.share hframe
  refine ⟨?_, fun b hb => ?_⟩
  · rw [hnone]
    exact hshared.release
  · exact (hshared.samples_release_of_mem hb).trans (Pool.samples_share pool frame b)

theorem Taken.leaves (h : Taken c device shape pool t) (hcounted : pool.Counted held)
    (hstored : c.Stored device held) : Leaves pool held t := by
  cases h with
  | missed hframe => exact ⟨hcounted, fun _ _ => rfl⟩
  | rateless hframe hrate hfault => exact leaves_release hcounted (hstored.mem hframe) rfl
  | unconverted hframe hrate hfault => exact leaves_release hcounted (hstored.mem hframe) rfl
  | produced hframe hrate hconverted =>
    have hpasses := Pool.passes_frame hcounted (hstored.mem hframe) hconverted c.amplifier
      shape.samples.toNat
    exact ⟨hpasses.counted, hpasses.others⟩

theorem Taken.produces (h : Taken c device shape pool t) (hcounted : pool.Counted held)
    (hstored : c.Stored device held) {out : Buffer} (hout : t.result = .ok (.produced out)) :
    ∃ frame rate, Produces c device pool shape t out frame rate := by
  cases h with
  | missed hframe => cases hout
  | rateless hframe hrate hfault => cases hout
  | unconverted hframe hrate hfault => cases hout
  | @produced frame converted rate pool' n hframe hrate hconverted =>
    cases hout
    obtain ⟨time, hlast, hanswer⟩ := (c.clock.setShape shape).fetch_eq_answer device c.deviceId
    have hmem := hstored.mem hframe
    have hpasses := Pool.passes_frame hcounted hmem hconverted c.amplifier shape.samples.toNat
    refine ⟨frame, rate, ⟨time, hlast, ?_⟩, hrate, hpasses.samples_eq, ?_⟩
    · rw [← hframe]
      exact congrArg Fetch.frame? hanswer.symm
    · rw [hpasses.eq_iff hmem]
      simp [RateConverter.ratesAgree]

theorem stored_opened (h : c.Stored device held) : c.opened.Stored device held := by
  rw [opened, drain_eq]
  exact h

theorem Ticked.leaves (h : Ticked c device pool enabled shape t) (hcounted : pool.Counted held)
    (hstored : c.Stored device held) : Leaves pool held t := by
  cases h with
  | latched => exact ⟨hcounted, fun _ _ => rfl⟩
  | disabled => exact ⟨hcounted, fun _ _ => rfl⟩
  | invalid => exact ⟨hcounted, fun _ _ => rfl⟩
  | notWired => exact ⟨hcounted, fun _ _ => rfl⟩
  | taken _ _ _ _ htaken => exact htaken.leaves hcounted (stored_opened hstored)

/-- The gain is the one in force after the messages that the tick has taken up. -/
theorem Ticked.produces (h : Ticked c device pool enabled shape t)
    (hcounted : pool.Counted held) (hstored : c.Stored device held) {out : Buffer}
    (hout : t.result = .ok (.produced out)) :
    ∃ frame rate, Produces c.drain device pool shape t out frame rate := by
  cases h with
  | latched => cases hout
  | disabled => cases hout
  | invalid => cases hout
  | notWired => cases hout
  | taken _ _ _ _ htaken =>
    obtain ⟨frame, rate, hproduces⟩ := htaken.produces hcounted (stored_opened hstored) hout
    exact ⟨frame, rate, hproduces.asked, hproduces.rate_eq, hproduces.samples_eq,
      hproduces.eq_iff⟩

end Capture

/-! ## A capture among others -/

/-- A capture, and all handles to frames that others keep: the device, and those given a frame. -/
structure Custody where
  capture : Capture
  pool : Pool := {}
  held : List Buffer := []

namespace Custody

/-- The device keeps a handle of its own to every frame that it hands out. -/
def Keeps (w : Custody) (device : Device Buffer) : Prop := w.capture.Stored device w.held

/-- A frame that a tick produces comes into the keeping of others. -/
def tick (w : Custody) (device : Device Buffer) (enabled : Bool) (shape : FrameShape) : Custody :=
  let t := w.capture.tickWith device w.pool enabled shape
  { capture := t.capture, pool := t.pool, held := t.frame?.toList ++ w.held }

/-- What can happen to a capture and those around it; whoever writes makes ready to first. -/
inductive Step : Custody → Custody → Prop where
  | tick {w : Custody} {device : Device Buffer} (hkeeps : w.Keeps device) (enabled : Bool)
      (shape : FrameShape) : Step w (w.tick device enabled shape)
  | post {w : Custody} {c : Capture} {m : Command} (hpost : w.capture.post m = .ok c) :
      Step w { w with capture := c }
  | add (w : Custody) (samples : Array Int16) :
      Step w { w with
        pool := (w.pool.alloc samples).2
        held := (w.pool.alloc samples).1 :: w.held }
  | share {w : Custody} {b : Buffer} (hb : b ∈ w.held) :
      Step w { w with pool := w.pool.share b, held := b :: w.held }
  | giveUp {w : Custody} {b : Buffer} (hb : b ∈ w.held) :
      Step w { w with pool := w.pool.release b, held := w.held.erase b }
  | write {w : Custody} {b : Buffer} (hb : b ∈ w.held) (samples : Array Int16) :
      Step w { w with
        pool := (w.pool.own b).2.write (w.pool.own b).1 samples
        held := (w.pool.own b).1 :: w.held.erase b }

inductive Reachable : Custody → Prop where
  | start {name : String} {d : DeviceId} {wired : Bool} {settings : CaptureSettings}
      {c : Capture} (hc : Capture.ofSettings name d wired settings = .ok c) :
      Reachable { capture := c }
  | next {w w' : Custody} (hw : Reachable w) (hstep : Step w w') : Reachable w'

theorem counted_step {w w' : Custody} (h : w.pool.Counted w.held) (hstep : Step w w') :
    w'.pool.Counted w'.held := by
  cases hstep with
  | @tick device hkeeps enabled shape =>
    exact ((Capture.ticked_tickWith w.capture device w.pool enabled shape).leaves h
      hkeeps).counted
  | post hpost => exact h
  | add samples => exact h.alloc samples
  | share hb => exact h.share hb
  | giveUp hb => exact (h.of_perm (List.perm_cons_erase hb)).release
  | write hb samples => exact (h.of_perm (List.perm_cons_erase hb)).own.write _ samples

/-- All handles there are, are in the keeping of others. -/
theorem reachable_counted {w : Custody} (h : Reachable w) : w.pool.Counted w.held := by
  induction h with
  | start => exact Pool.counted_empty
  | next _ hstep ih => exact counted_step ih hstep

/-- A store answers with frames that it keeps. -/
theorem keeps_store {w : Custody} {store : FrameStore Buffer}
    (h : ∀ d, ∀ e ∈ store.frames d, e.2 ∈ w.held) : w.Keeps store.device := by
  intro asked time frame hframe
  have hfetch : (store.fetch w.capture.deviceId time).frame? = some frame := hframe
  unfold FrameStore.fetch at hfetch
  split at hfetch
  · rename_i track htrack
    have hframes : store.frames w.capture.deviceId = track.frames := by
      rw [FrameStore.frames, htrack]
      rfl
    unfold History.fetch at hfetch
    dsimp only at hfetch
    split at hfetch
    · rename_i e he
      cases hfetch
      have hlast := (Option.filter_eq_some_iff.mp he).1
      have hmem := List.mem_of_mem_take (List.mem_of_getLast? hlast)
      exact h _ e (hframes ▸ hmem)
    · cases hfetch
  · cases hfetch

end Custody

/--
Whatever a capture and those around it have done, and whatever device is asked that keeps the
frames it hands out: a frame that a tick produces was made from the answer to its last request,
converted from the rate of the device and scaled by the gain in force, and it is that very frame
just when the rates agree and the gain is unity. No tick changes what others read, from stored
frames or from frames produced before. A store is such a device.
-/
theorem produced_isolated {w : Custody} (hw : w.Reachable) {device : Device Buffer}
    (hkeeps : w.Keeps device) (enabled : Bool) (shape : FrameShape) :
    (∀ out, (w.capture.tickWith device w.pool enabled shape).result = .ok (.produced out) →
      ∃ frame rate, w.capture.drain.Produces device w.pool shape
        (w.capture.tickWith device w.pool enabled shape) out frame rate) ∧
    (∀ b ∈ w.held, (w.capture.tickWith device w.pool enabled shape).pool.samples b =
      w.pool.samples b) ∧
    ∀ store : FrameStore Buffer, (∀ d, ∀ e ∈ store.frames d, e.2 ∈ w.held) →
      w.Keeps store.device := by
  have hcounted := Custody.reachable_counted hw
  have hticked := Capture.ticked_tickWith w.capture device w.pool enabled shape
  exact ⟨fun out hout => hticked.produces hcounted hkeeps hout,
    (hticked.leaves hcounted hkeeps).others, fun store hstore => Custody.keeps_store hstore⟩

/-- A frame at half its loudness, while the store still has it at full. -/
theorem produced_isolated_halved :
    ∃ (w : Custody) (store : FrameStore Buffer), w.Reachable ∧ w.Keeps store.device ∧
      w.capture.commands.waiting = [.setGain ⟨8192⟩] ∧
      (w.capture.tickWith store.device w.pool true ⟨80, 8000⟩).result =
        .ok (.produced ⟨1⟩) ∧
      (w.capture.tickWith store.device w.pool true ⟨80, 8000⟩).pool.samples ⟨1⟩ =
        #[500, -500, 16383] ∧
      (w.capture.tickWith store.device w.pool true ⟨80, 8000⟩).pool.samples ⟨0⟩ =
        #[1000, -1000, 32767] := by
  let store : FrameStore Buffer :=
    { capacity := 1
      tracks := [(⟨1⟩, { name := "mic", sampleRate := some 8000, frames := [(1000, ⟨0⟩)] })] }
  let start : Capture :=
    { name := "mic", deviceId := ⟨1⟩, wired := true, settings := {}
      clock := { interval := 10, maxSteps := 64 }, converter := ⟨8000, 8000⟩
      commands := { depth := 32 } }
  let w : Custody :=
    { capture := { start with commands := { depth := 32, waiting := [.setGain ⟨8192⟩] } }
      pool := { cells := #[⟨#[1000, -1000, 32767], 1⟩] }
      held := [⟨0⟩] }
  have hstart : Capture.ofSettings "mic" ⟨1⟩ true {} = .ok start := rfl
  have hadded := (Custody.Reachable.start hstart).next (.add _ #[1000, -1000, 32767])
  have hw : w.Reachable := hadded.next (.post (m := .setGain ⟨8192⟩) rfl)
  have hkeeps : w.Keeps store.device := by
    refine Custody.keeps_store fun d e he => ?_
    by_cases hd : d = ⟨1⟩
    · subst hd
      have hone : e = (1000, ⟨0⟩) := List.mem_singleton.mp he
      rw [hone]
      exact List.mem_singleton.mpr rfl
    · have hne : (d == ⟨1⟩) = false := beq_eq_false_iff_ne.mpr hd
      have hnone : store.frames d = [] := by
        simp [store, FrameStore.frames, FrameStore.track?, List.lookup_cons, hne]
      rw [hnone] at he
      cases he
  obtain ⟨hproduces, hothers, -⟩ := produced_isolated hw hkeeps true ⟨80, 8000⟩
  have hout : (w.capture.tickWith store.device w.pool true ⟨80, 8000⟩).result =
      .ok (.produced ⟨1⟩) := rfl
  obtain ⟨frame, rate, hframe⟩ := hproduces ⟨1⟩ hout
  obtain ⟨time, htime, hasked⟩ := hframe.asked
  have hrate : (8000 : UInt32) = rate := Option.some.inj hframe.rate_eq
  cases (show some 1000 = some time from htime)
  cases (show some (Buffer.mk 0) = some frame from hasked)
  subst hrate
  refine ⟨w, store, hw, hkeeps, rfl, hout, ?_, hothers ⟨0⟩ (List.mem_singleton.mpr rfl)⟩
  have hgain : w.capture.drain.amplifier.gain = ⟨8192⟩ := rfl
  have hconverted : (RateConverter.mk 8000 8000).converted (w.pool.samples ⟨0⟩) =
      #[1000, -1000, 32767] := rfl
  have htimes : (Gain.mk 8192).times 1000 = 500 ∧ (Gain.mk 8192).times (-1000) = -500 ∧
      (Gain.mk 8192).times 32767 = 16383 := by decide
  rw [hframe.samples_eq, hgain, hconverted]
  simp [Gain.scaled, htimes]

end MediaSession
