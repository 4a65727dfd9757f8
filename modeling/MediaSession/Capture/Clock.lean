import MediaSession.Capture.Settings
import MediaSession.Device.Fetch

/-!
# MediaSession.Capture.Clock

The device time a capture asks for next. A clock starts at the newest frame of the device and goes
on by one interval each time, whether a frame was there or not. When the frame is missing and all
buffered frames lie on one side, the clock walks toward them interval by interval.

* `Clock`: the time asked for last, the interval, and the most steps of one walk
* `Clock.walk`: the walk
* `Clock.resolve`: what becomes of an answer
* `Clock.fetch`: one request with all that follows from it
-/

namespace MediaSession

structure Clock where
  /-- The time asked for last; none before the first frame. -/
  previous : Option Nat := none
  interval : Nat
  maxSteps : Nat
deriving DecidableEq

/-- The outcome of a fetch: the last request, its answer, and how the clock came there. -/
structure Synced (β : Type) where
  time : Nat
  fetch : Fetch β
  forward : Nat := 0
  backward : Nat := 0
  /-- All times asked for, in order. -/
  requests : List FrameTime := []

structure Walk (β : Type) where
  time : Nat
  fetch : Fetch β
  steps : Nat := 0
  /-- The times the walk asked for, the latest first. -/
  asked : List FrameTime := []

namespace Clock

variable {β : Type}

def ofShape (shape : FrameShape) (maxSteps : Nat) : Clock :=
  { interval := shape.interval, maxSteps }

def setShape (c : Clock) (shape : FrameShape) : Clock := { c with interval := shape.interval }

def hasBaseline (c : Clock) : Bool := c.previous.isSome

/-- The next fetch starts from the newest frame again. -/
def reset (c : Clock) : Clock := { c with previous := none }

/-- The time to ask for next, given the time of the newest frame. -/
def nextTime (c : Clock) (newest : Nat) : Nat :=
  match c.previous with
  | some t => t + c.interval
  | none => newest

/--
Goes from request to request while the answers point on, steps are left, and there is a time to
go to.
-/
def walk (answer : Nat → Nat → Fetch β) (pointsOn : Fetch β → Bool)
    (next : Nat → Option Nat) : Nat → Walk β → Walk β
  | 0, w => w
  | n + 1, w =>
    if pointsOn w.fetch then
      match next w.time with
      | none => w
      | some t =>
        walk answer pointsOn next n
          { time := t, fetch := answer (w.steps + 1) t, steps := w.steps + 1,
            asked := t :: w.asked }
    else w

def later (c : Clock) (t : Nat) : Option Nat := some (t + c.interval)

/-- No time lies before zero. -/
def earlier (c : Clock) (t : Nat) : Option Nat :=
  if c.interval ≤ t then some (t - c.interval) else none

/--
Walks on from the answer to a request, in the direction that this answer points to. The last time
asked for is the new baseline, unless the clock has never seen a frame and did not find one.
-/
def resolve (c : Clock) (answer : Nat → Nat → Fetch β) (time : Nat)
    (fetch : Fetch β) : Synced β × Clock :=
  let start : Walk β := { time, fetch }
  let synced : Synced β :=
    if fetch.isBehind then
      let w := walk answer Fetch.isBehind c.later c.maxSteps start
      { time := w.time, fetch := w.fetch, forward := w.steps, requests := w.asked.reverse }
    else if fetch.isAhead then
      let w := walk answer Fetch.isAhead c.earlier c.maxSteps start
      { time := w.time, fetch := w.fetch, backward := w.steps, requests := w.asked.reverse }
    else { time, fetch }
  let previous :=
    if synced.fetch.isFound || c.hasBaseline then some synced.time else c.previous
  (synced, { c with previous })

/-- Asks a device for the next frame, and goes on asking while that helps. -/
def fetch (c : Clock) (device : Device β) (d : DeviceId) : Synced β × Clock :=
  let time := c.nextTime (device.currentTime d)
  let (synced, c) := c.resolve (device.answer d) time (device.answer d 0 time)
  ({ synced with requests := time :: synced.requests }, c)

end Clock
end MediaSession
