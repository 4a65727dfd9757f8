import MediaSession.Device.Id

/-!
# MediaSession.Device.Fetch

What a device buffer answers when it is asked for the frame at a time, and what a capture may ask
of a device buffer.

* `Fetch`: the answer, with the fill of the buffer around the time
* `Fetch.isBehind`, `Fetch.isAhead`: a miss that says on which side the frames are
* `Device`: a device buffer as a capture sees it
-/

namespace MediaSession

inductive Finding (β : Type)
  | found (frame : β)
  /-- No frame is stored at the time. -/
  | missing
  /-- The device is unknown or broken. -/
  | broken
deriving DecidableEq

structure Fetch (β : Type) where
  status : Finding β
  /-- Frames buffered for later times. -/
  notYetPlayed : Nat := 0
  /-- Frames buffered for earlier times. -/
  bufferedAhead : Nat := 0
deriving DecidableEq

namespace Fetch

variable {β : Type}

def found (frame : β) : Fetch β := { status := .found frame }

def missing (notYetPlayed bufferedAhead : Nat) : Fetch β :=
  { status := .missing, notYetPlayed, bufferedAhead }

def broken : Fetch β := { status := .broken }

def frame? (f : Fetch β) : Option β :=
  match f.status with
  | .found frame => some frame
  | _ => none

def isFound (f : Fetch β) : Bool := f.frame?.isSome

def isMissing (f : Fetch β) : Bool :=
  match f.status with
  | .missing => true
  | _ => false

/-- All frames buffered are later than the time asked for. -/
def isBehind (f : Fetch β) : Bool :=
  f.isMissing && f.bufferedAhead == 0 && decide (0 < f.notYetPlayed)

/-- All frames buffered are earlier than the time asked for. -/
def isAhead (f : Fetch β) : Bool :=
  f.isMissing && decide (0 < f.bufferedAhead) && f.notYetPlayed == 0

theorem not_behind_and_ahead (f : Fetch β) : ¬ (f.isBehind = true ∧ f.isAhead = true) := by
  simp only [isBehind, isAhead, Bool.and_eq_true, beq_iff_eq, decide_eq_true_eq]
  omega

end Fetch

/-- A time for which a device is asked, in milliseconds of its clock. -/
abbrev FrameTime := Nat

/--
A device buffer at one moment. An answer may depend on how many requests were made before it, so
that nothing is assumed of a device that keeps changing while it is asked.
-/
structure Device (β : Type) where
  /-- The time of the newest frame. -/
  currentTime : DeviceId → Nat
  /-- The answer for a time, given how many requests were made before. -/
  answer : DeviceId → Nat → Nat → Fetch β
  sampleRate : DeviceId → Option UInt32
  name : DeviceId → Option String
  /-- Times at which asking brings down whoever asks. -/
  crashes : DeviceId → FrameTime → Bool := fun _ _ => false

end MediaSession
