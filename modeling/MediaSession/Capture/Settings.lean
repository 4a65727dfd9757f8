import MediaSession.Fault
import MediaSession.Json.Record

/-!
# MediaSession.Capture.Settings

Settings of a capture: the shape of its frames, how far it may look for a frame, and its control
queue.

* `FrameShape`: samples per frame and per second; `FrameShape.interval` is the time of one frame
* `CaptureSettings`: the settings and their defaults
* `CaptureSettings.fault?`: the first thing wrong with them
* `CaptureSettings.toJson`, `CaptureSettings.ofJson?`: the settings as JSON
-/

namespace MediaSession

/-- The samples of one frame, and how many make a second. -/
structure FrameShape where
  samples : UInt32
  rate : UInt32
deriving DecidableEq

namespace FrameShape

/-- The time of one frame in whole milliseconds, rounded down; zero without a rate. -/
def interval (s : FrameShape) : Nat := s.samples.toNat * 1000 / s.rate.toNat

/-- A shape needs samples, a rate, and frames of a millisecond at least. -/
def fault? (s : FrameShape) : Option SettingsFault :=
  if s.samples = 0 then some (.zero "samples_per_frame")
  else if s.rate = 0 then some (.zero "samples_per_second")
  else if s.interval = 0 then some (.belowMillisecond s.samples s.rate)
  else none

theorem interval_pos {s : FrameShape} (h : s.fault? = none) : 0 < s.interval := by
  simp only [fault?] at h
  split at h
  · cases h
  · split at h
    · cases h
    · split at h
      · cases h
      · omega

end FrameShape

structure CaptureSettings where
  samplesPerFrame : UInt32 := 80
  samplesPerSecond : UInt32 := 8000
  /-- How many intervals a tick may walk in search of a frame. -/
  maxSteps : UInt32 := 64
  queueDepth : UInt64 := 32
  /-- How long a sender waits for room in the control queue. -/
  sendTimeout : Span := Span.ofMillis 20
deriving DecidableEq

namespace CaptureSettings

def shape (c : CaptureSettings) : FrameShape := ⟨c.samplesPerFrame, c.samplesPerSecond⟩

def interval (c : CaptureSettings) : Nat := c.shape.interval

def fault? (c : CaptureSettings) : Option SettingsFault :=
  match c.shape.fault? with
  | some fault => some fault
  | none =>
    if c.maxSteps = 0 then some (.zero "max_resync_steps")
    else if c.queueDepth = 0 then some (.zero "control_queue_depth")
    else if c.sendTimeout.isZero then some (.zero "control_send_timeout")
    else none

def check (c : CaptureSettings) : Except Fault Unit :=
  match c.fault? with
  | some fault => .error (.invalidSettings fault)
  | none => .ok ()

end CaptureSettings

open Json

namespace Span

def shape : RecordShape where
  names := ["secs", "nanos"]
  closed := true

def toJson (s : Span) : Value :=
  .record [("secs", .ofNat s.seconds.toNat), ("nanos", .ofNat s.nanos.val)]

/-- Both parts have to be given and nothing else; nanoseconds may go beyond a second. -/
def ofJson? (v : Value) : Option Span := do
  let s ← shape.slots? v
  let seconds ← s.required "secs" Value.uint64?
  let nanos ← s.required "nanos" (Value.natural? 32)
  Span.ofParts? seconds nanos

end Span

namespace CaptureSettings

def recordShape : RecordShape where
  names := ["samples_per_frame", "samples_per_second", "max_resync_steps", "control_queue_depth",
    "control_send_timeout"]
  openEnded := true

def toJson (c : CaptureSettings) : Value :=
  .record
    [("samples_per_frame", .ofNat c.samplesPerFrame.toNat),
      ("samples_per_second", .ofNat c.samplesPerSecond.toNat),
      ("max_resync_steps", .ofNat c.maxSteps.toNat),
      ("control_queue_depth", .ofNat c.queueDepth.toNat),
      ("control_send_timeout", c.sendTimeout.toJson)]

/-- Fields that are not given keep their defaults. -/
def ofJson? (v : Value) : Option CaptureSettings := do
  let base : CaptureSettings := {}
  let s ← recordShape.slots? v
  let samplesPerFrame ← s.overlay "samples_per_frame" Value.uint32? base.samplesPerFrame
  let samplesPerSecond ← s.overlay "samples_per_second" Value.uint32? base.samplesPerSecond
  let maxSteps ← s.overlay "max_resync_steps" Value.uint32? base.maxSteps
  let queueDepth ← s.overlay "control_queue_depth" Value.uint64? base.queueDepth
  let sendTimeout ← s.overlay "control_send_timeout" Span.ofJson? base.sendTimeout
  some { samplesPerFrame := samplesPerFrame, samplesPerSecond, maxSteps, queueDepth,
         sendTimeout }

end CaptureSettings
end MediaSession
