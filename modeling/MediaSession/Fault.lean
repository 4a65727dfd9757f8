import MediaSession.Device.Id
import MediaSession.Span

/-!
# MediaSession.Fault

What can go wrong on the way from an input device to the session.

* `Fault`: the causes
* `Fault.isFatal`: nothing can come of the capture any more
* `Fault.isTransient`: trying again later may help
* `Fault.kind`, `Fault.message`: the word and the sentence for each
-/

namespace MediaSession

/-- What is wrong with the settings of a capture or with the parameters of a tick. -/
inductive SettingsFault
  | zero (field : String)
  | belowMillisecond (samples rate : UInt32)
  | other (details : String)
deriving DecidableEq

def SettingsFault.message : SettingsFault → String
  | .zero field => s!"{field} must be greater than 0"
  | .belowMillisecond samples rate =>
    s!"{samples.toNat} samples at {rate.toNat}Hz is shorter than one millisecond"
  | .other details => details

inductive Fault
  /-- No frame at the last time asked for, with the frames buffered after and before it. -/
  | frameUnavailable (device : DeviceId) (time notYetPlayed bufferedAhead : Nat)
  | rateUnavailable (device : DeviceId) (name : String)
  | notWired (component : String)
  | conversion (inputRate outputRate : UInt32) (reason : String)
  | unknownDevice (device : DeviceId)
  | queueTimeout (timeout : Span)
  | queueFull
  | queueClosed
  | invalidSettings (fault : SettingsFault)
  | stopped (details : String)
deriving DecidableEq

namespace Fault

def kind : Fault → String
  | .frameUnavailable _ _ _ _ => "FrameUnavailable"
  | .rateUnavailable _ _ => "DeviceRateUnavailable"
  | .notWired _ => "NotWired"
  | .conversion _ _ _ => "Resample"
  | .unknownDevice _ => "UnknownDevice"
  | .queueTimeout _ => "ControlQueueTimeout"
  | .queueFull => "ControlQueueFull"
  | .queueClosed => "ControlQueueClosed"
  | .invalidSettings _ => "InvalidConfig"
  | .stopped _ => "DriverStopped"

def message : Fault → String
  | .frameUnavailable device time notYetPlayed bufferedAhead =>
    s!"Frame unavailable on device {device.text} at {time}ms (not yet played: {notYetPlayed}, " ++
      s!"buffered ahead: {bufferedAhead})"
  | .rateUnavailable device name =>
    s!"Couldn't get sample rate of device \"{name}\" (id {device.text})"
  | .notWired component => s!"Capture resource is not wired: missing {component}"
  | .conversion inputRate outputRate reason =>
    s!"Resampling {inputRate.toNat}Hz -> {outputRate.toNat}Hz failed: {reason}"
  | .unknownDevice device => s!"Unknown input device: {device.text}"
  | .queueTimeout timeout => s!"Control queue send timed out after {timeout.text}"
  | .queueFull => "Control queue is full"
  | .queueClosed => "Control queue is closed"
  | .invalidSettings fault => s!"Invalid capture configuration: {fault.message}"
  | .stopped details => s!"Capture driver stopped: {details}"

/-- A capture that met such a fault processes nothing any more. -/
def isFatal : Fault → Bool
  | .rateUnavailable _ _ => true
  | .notWired _ => true
  | _ => false

def isTransient : Fault → Bool
  | .frameUnavailable _ _ _ _ => true
  | .queueTimeout _ => true
  | .queueFull => true
  | _ => false

end Fault
end MediaSession
