import MediaSession.Device.History
import MediaSession.Fault

/-!
# MediaSession.Device.FrameStore

A device buffer in memory: for each registered device its name, its sample rate if that is known,
and the newest of the frames pushed to it.

* `FrameStore`: the buffer
* `add`, `remove`, `setRate`, `push`, `clear`: changes, each to one device
* `FrameStore.device`: the buffer as a capture sees it
-/

namespace MediaSession

/-- What is kept of one device. -/
structure Track (β : Type) where
  name : String
  sampleRate : Option UInt32
  frames : History β := []

structure FrameStore (β : Type) where
  /-- How many frames are kept of each device. -/
  capacity : Nat
  /-- Each device once. -/
  tracks : List (DeviceId × Track β) := []

namespace FrameStore

variable {β : Type}

def defaultHistory : Nat := 20

/-- At least one frame is kept of each device. -/
def keeping (history : Nat) : FrameStore β := { capacity := max history 1 }

def track? (s : FrameStore β) (d : DeviceId) : Option (Track β) := s.tracks.lookup d

def without (s : FrameStore β) (d : DeviceId) : FrameStore β :=
  { s with tracks := s.tracks.filter fun e => e.1 != d }

/-- A device starts without frames, even if it was there before. -/
def add (s : FrameStore β) (d : DeviceId) (name : String) (sampleRate : Option UInt32) :
    FrameStore β :=
  { s.without d with tracks := (d, { name, sampleRate }) :: (s.without d).tracks }

/-- Whether there was such a device, and the buffer without it. -/
def remove (s : FrameStore β) (d : DeviceId) : Bool × FrameStore β :=
  ((s.track? d).isSome, s.without d)

def modify (s : FrameStore β) (d : DeviceId) (change : Track β → Track β) : FrameStore β :=
  { s with tracks := s.tracks.map fun e => if e.1 == d then (e.1, change e.2) else e }

/-- Changes a device that has to be there. -/
def modify? (s : FrameStore β) (d : DeviceId) (change : Track β → Track β) :
    Except Fault (FrameStore β) :=
  if (s.track? d).isSome then .ok (s.modify d change) else .error (.unknownDevice d)

def setRate (s : FrameStore β) (d : DeviceId) (sampleRate : Option UInt32) :
    Except Fault (FrameStore β) :=
  s.modify? d fun t => { t with sampleRate }

/-- A frame replaces the one of its time; the oldest give way when there are too many. -/
def push (s : FrameStore β) (d : DeviceId) (time : Nat) (frame : β) :
    Except Fault (FrameStore β) :=
  s.modify? d fun t => { t with frames := t.frames.push s.capacity time frame }

def clear (s : FrameStore β) (d : DeviceId) : FrameStore β :=
  s.modify d fun t => { t with frames := [] }

def frames (s : FrameStore β) (d : DeviceId) : History β := (s.track? d).elim [] Track.frames

def frameCount (s : FrameStore β) (d : DeviceId) : Nat := (s.frames d).length

def deviceCount (s : FrameStore β) : Nat := s.tracks.length

def currentTime (s : FrameStore β) (d : DeviceId) : Nat := (s.frames d).newest

def sampleRate? (s : FrameStore β) (d : DeviceId) : Option UInt32 :=
  (s.track? d).bind Track.sampleRate

def name? (s : FrameStore β) (d : DeviceId) : Option String := (s.track? d).map Track.name

def fetch (s : FrameStore β) (d : DeviceId) (time : Nat) : Fetch β :=
  match s.track? d with
  | some t => t.frames.fetch time
  | none => .broken

def device (s : FrameStore β) : Device β where
  currentTime := s.currentTime
  answer := fun d _ time => s.fetch d time
  sampleRate := s.sampleRate?
  name := s.name?

end FrameStore
end MediaSession
