import MediaSession.Audio.Gain
import MediaSession.Fault

/-!
# MediaSession.Capture.Command

Messages to a capture, and the bounded queue in which they wait for its next tick.

* `Command`: the messages
* `CommandQueue`: messages in the order in which they were accepted
* `CommandQueue.post`: a message goes in at the back, if there is room
-/

namespace MediaSession

inductive Command
  | setGain (gain : Gain)
  | enable
  | disable
deriving DecidableEq

structure CommandQueue where
  depth : Nat
  waiting : List Command := []
deriving DecidableEq

namespace CommandQueue

def hasRoom (q : CommandQueue) : Bool := q.waiting.length < q.depth

/-- A full queue stays as it is. -/
def post (q : CommandQueue) (m : Command) : Option CommandQueue :=
  if q.hasRoom then some { q with waiting := q.waiting ++ [m] } else none

def emptied (q : CommandQueue) : CommandQueue := { q with waiting := [] }

end CommandQueue
end MediaSession
