import MediaSession.Audio.Amplifier
import MediaSession.Audio.RateConverter
import MediaSession.Capture.Clock
import MediaSession.Capture.Command
import MediaSession.Capture.Counters

/-!
# MediaSession.Capture.Basic

The capture of one input device: each tick takes one frame from the device, brings it to the rate
of the session, applies the gain and hands it on.

* `Capture`: the state of a capture
* `Capture.ofSettings`: a new capture
* `Capture.tickWith`: one tick
* `Capture.post`: a control message, applied by the next tick
-/

namespace MediaSession

structure Capture where
  name : String
  deviceId : DeviceId
  /-- Whether there is a device buffer to read from. -/
  wired : Bool
  settings : CaptureSettings
  clock : Clock
  converter : RateConverter
  amplifier : Amplifier := {}
  /-- Switched by control messages. -/
  enabled : Bool := true
  commands : CommandQueue
  /-- The fatal fault that ended all processing. -/
  failure : Option Fault := none
  counters : Counters := {}

/-- What a successful tick gives. -/
inductive TickYield
  | disabled
  | produced (frame : Buffer)
deriving DecidableEq

/-- A tick with all it did: its result, its requests, and what it leaves. -/
structure Tick where
  result : Except Fault TickYield
  requests : List FrameTime := []
  capture : Capture
  pool : Pool

namespace Capture

/-- A capture with valid settings, at first converting between equal rates. -/
def ofSettings (name : String) (deviceId : DeviceId) (wired : Bool)
    (settings : CaptureSettings) : Except Fault Capture :=
  match settings.check with
  | .error fault => .error fault
  | .ok () =>
    .ok
      { name, deviceId, wired, settings,
        clock := Clock.ofShape settings.shape settings.maxSteps.toNat,
        converter := ⟨settings.samplesPerSecond, settings.samplesPerSecond⟩,
        commands := { depth := settings.queueDepth.toNat } }

/-! ## Control -/

def obey (c : Capture) : Command → Capture
  | .setGain gain => { c with amplifier := c.amplifier.withGain gain }
  | .enable => { c with enabled := true }
  | .disable => { c with enabled := false }

def drain (c : Capture) : Capture :=
  let c' := c.commands.waiting.foldl obey c
  { c' with commands := c.commands.emptied }

def post (c : Capture) (m : Command) : Except Fault Capture :=
  match c.commands.post m with
  | some q => .ok { c with commands := q }
  | none => .error .queueFull

/-- Posts a message when nothing is going to empty the queue while the sender waits. -/
def postUnrelieved (c : Capture) (m : Command) : Except Fault Capture :=
  match c.commands.post m with
  | some q => .ok { c with commands := q }
  | none => .error (.queueTimeout c.settings.sendTimeout)

/-! ## Ticks -/

/-- A fault that is fatal ends all processing. -/
def fail (c : Capture) (fault : Fault) : Capture := { c with failure := some fault }

def count (c : Capture) (change : Counters → Counters) : Capture :=
  { c with counters := change c.counters }

/-- The miss that a fetch without a frame is reported as. -/
def missed (c : Capture) {β : Type} (s : Synced β) : Fault :=
  .frameUnavailable c.deviceId s.time s.fetch.notYetPlayed s.fetch.bufferedAhead

/-- The rates to convert between, counted when they change. -/
def setRates (c : Capture) (input output : UInt32) : Capture :=
  let (changed, converter) := c.converter.setRates input output
  if changed then
    { c with converter }.count fun n => { n with reconfigurations := n.reconfigurations + 1 }
  else c

/-- Moves the clock on by a fetch, and counts the steps it took. -/
def fetch (c : Capture) (device : Device Buffer) (shape : FrameShape) :
    Synced Buffer × Capture :=
  let (synced, clock) := (c.clock.setShape shape).fetch device c.deviceId
  (synced,
    { c with clock }.count fun n =>
      { n with
        forwardSteps := n.forwardSteps + synced.forward
        backwardSteps := n.backwardSteps + synced.backward })

def drop (c : Capture) : Capture := c.count fun n => { n with dropped := n.dropped + 1 }

def deliver (c : Capture) : Capture := c.count fun n => { n with delivered := n.delivered + 1 }

/--
A frame on its way to the session. The capture holds the frame while it works on it; without a
known device rate there is no way to convert it, now or later.
-/
def process (c : Capture) (device : Device Buffer) (shape : FrameShape) (pool : Pool)
    (frame : Buffer) : Except Fault TickYield × Capture × Pool :=
  match device.sampleRate c.deviceId with
  | none =>
    let fault : Fault :=
      .rateUnavailable c.deviceId ((device.name c.deviceId).getD "Unknown device")
    (.error fault, c.drop.fail fault, pool.release frame)
  | some rate =>
    let c := c.setRates rate shape.rate
    match c.converter.convertBuffer pool frame with
    | .error fault => (.error fault, c.drop, pool.release frame)
    | .ok (frame, pool) =>
      let (frame, amplifier, pool) := c.amplifier.apply pool frame shape.samples.toNat
      (.ok (.produced frame), { c with amplifier }.deliver, pool)

/-- An enabled tick of a capture that works: a fetch, and what becomes of the answer. -/
def take (c : Capture) (device : Device Buffer) (shape : FrameShape) (pool : Pool) : Tick :=
  let (synced, c) := c.fetch device shape
  match synced.fetch.frame? with
  | none =>
    { result := .error (c.missed synced), requests := synced.requests, capture := c.drop, pool }
  | some frame =>
    let (result, c, pool) := c.process device shape (pool.share frame) frame
    { result, requests := synced.requests, capture := c, pool }

/--
One tick. A latched failure comes first and changes nothing; then waiting messages take effect; a
disabled tick succeeds without a frame; then the shape and the wiring are looked at.
-/
def tickWith (c : Capture) (device : Device Buffer) (pool : Pool) (enabled : Bool)
    (shape : FrameShape) : Tick :=
  match c.failure with
  | some fault => { result := .error fault, capture := c, pool }
  | none =>
    let c := c.drain.count fun n => { n with ticks := n.ticks + 1 }
    if !enabled || !c.enabled then { result := .ok .disabled, capture := c, pool }
    else
      match shape.fault? with
      | some fault => { result := .error (.invalidSettings fault), capture := c, pool }
      | none =>
        if c.wired then c.take device shape pool
        else
          let fault : Fault := .notWired "input device buffer"
          { result := .error fault, capture := c.fail fault, pool }

def tick (c : Capture) (device : Device Buffer) (pool : Pool) : Tick :=
  c.tickWith device pool true c.settings.shape

end Capture
end MediaSession
