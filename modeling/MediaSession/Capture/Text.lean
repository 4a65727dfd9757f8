import MediaSession.Capture.Basic
import MediaSession.Text.Quoted

/-!
# MediaSession.Capture.Text

A capture written out on one line for people who look for what is wrong with it: texts in quotes,
and every part under its name.

* `Fault.outline`: a fault
* `Clock.outline`: a frame clock
* `Capture.outline`: a capture
-/

namespace MediaSession

/-- Named parts of a thing, in braces after its name. -/
def outlineOf (name : String) (parts : List (String × String)) : String :=
  name ++ " \x7b " ++ ", ".intercalate (parts.map fun p => p.1 ++ ": " ++ p.2) ++ " \x7d"

def DeviceId.outline (d : DeviceId) : String := "DeviceId(" ++ d.text ++ ")"

namespace Fault

def parts : Fault → List (String × String)
  | .frameUnavailable device time notYetPlayed bufferedAhead =>
    [("device_id", device.outline), ("frame_time", toString time),
      ("frames_not_yet_played", toString notYetPlayed),
      ("frames_buffered_ahead", toString bufferedAhead)]
  | .rateUnavailable device name =>
    [("device_id", device.outline), ("device_name", Text.quote name)]
  | .notWired component => [("component", Text.quote component)]
  | .conversion inputRate outputRate reason =>
    [("input_rate", toString inputRate.toNat), ("output_rate", toString outputRate.toNat),
      ("reason", Text.quote reason)]
  | .unknownDevice device => [("device_id", device.outline)]
  | .queueTimeout timeout => [("timeout", timeout.text)]
  | .queueFull => []
  | .queueClosed => []
  | .invalidSettings fault => [("details", Text.quote fault.message)]
  | .stopped details => [("details", Text.quote details)]

/-- A fault without parts is its name alone. -/
def outline (f : Fault) : String :=
  if f.parts.isEmpty then f.kind else outlineOf f.kind f.parts

end Fault

def outlineOption : Option String → String
  | none => "None"
  | some s => "Some(" ++ s ++ ")"

def Clock.outline (c : Clock) : String :=
  outlineOf "FrameClock"
    [("previous_frame_time", outlineOption (c.previous.map toString)),
      ("frame_interval", toString c.interval),
      ("max_resync_steps", toString c.maxSteps)]

def Capture.outline (c : Capture) : String :=
  outlineOf "CaptureResource"
    [("name", Text.quote c.name),
      ("device_id", c.deviceId.outline),
      ("enabled", toString c.enabled),
      ("gain", s!"Gain({c.amplifier.gain.raw.toInt})"),
      ("clock", c.clock.outline),
      ("failure", outlineOption (c.failure.map Fault.outline))]

end MediaSession
