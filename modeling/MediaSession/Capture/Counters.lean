import MediaSession.Json.Record

/-!
# MediaSession.Capture.Counters

Running counts of a capture.

* `Counters`: the counts
* `Counters.toJson`, `Counters.ofJson?`: the counts as JSON, each below `2 ^ 64`
-/

namespace MediaSession

structure Counters where
  /-- Ticks processed, those that were disabled too. -/
  ticks : Nat := 0
  delivered : Nat := 0
  /-- Ticks that were enabled and gave no frame for want of one. -/
  dropped : Nat := 0
  /-- Intervals walked forward in search of frames. -/
  forwardSteps : Nat := 0
  backwardSteps : Nat := 0
  /-- Times that the rates to convert between changed. -/
  reconfigurations : Nat := 0
deriving DecidableEq

namespace Counters

open Json

def shape : RecordShape where
  names := ["ticks", "frames_delivered", "frames_dropped", "forward_resync_steps",
    "backward_resync_steps", "resampler_reconfigurations"]

def toJson (c : Counters) : Value :=
  .record
    [("ticks", .ofNat c.ticks),
      ("frames_delivered", .ofNat c.delivered),
      ("frames_dropped", .ofNat c.dropped),
      ("forward_resync_steps", .ofNat c.forwardSteps),
      ("backward_resync_steps", .ofNat c.backwardSteps),
      ("resampler_reconfigurations", .ofNat c.reconfigurations)]

def ofJson? (v : Value) : Option Counters := do
  let s ← shape.slots? v
  let ticks ← s.required "ticks" (Value.natural? 64)
  let delivered ← s.required "frames_delivered" (Value.natural? 64)
  let dropped ← s.required "frames_dropped" (Value.natural? 64)
  let forwardSteps ← s.required "forward_resync_steps" (Value.natural? 64)
  let backwardSteps ← s.required "backward_resync_steps" (Value.natural? 64)
  let reconfigurations ← s.required "resampler_reconfigurations" (Value.natural? 64)
  some { ticks := ticks, delivered, dropped, forwardSteps, backwardSteps, reconfigurations }

end Counters
end MediaSession
