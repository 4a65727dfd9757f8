import MediaSession.Device.Fetch

/-!
# MediaSession.Device.History

The newest frames of one device, in ascending order of time, at most one for each time. Places are
found by cutting a history at a time, which relies on the order.

* `History.insert`: a frame takes its place, or that of the frame of its time
* `History.keep`: the oldest frames give way
* `History.fetch`: the frame at a time, or how many frames lie on each side of it
-/

namespace MediaSession

abbrev History (β : Type) := List (Nat × β)

namespace History

variable {β : Type}

/-- The number of frames up to the first whose time fails a test. -/
def cut (h : History β) (test : Nat → Bool) : Nat := (h.takeWhile fun e => test e.1).length

def insert (time : Nat) (frame : β) (h : History β) : History β :=
  let place := h.cut (· < time)
  match h[place]? with
  | some e =>
    if e.1 = time then h.set place (e.1, frame) else h.insertIdx place (time, frame)
  | none => h.insertIdx place (time, frame)

/-- The newest `capacity` frames. -/
def keep (capacity : Nat) (h : History β) : History β := h.drop (h.length - capacity)

def push (capacity : Nat) (time : Nat) (frame : β) (h : History β) : History β :=
  keep capacity (h.insert time frame)

/-- The time of the newest frame, zero if there is none. -/
def newest (h : History β) : Nat := (h.getLast?.map Prod.fst).getD 0

/-- Counts of frames are given in 32 bits; what does not fit is given as the largest. -/
def capped (n : Nat) : Nat := min n 4294967295

/-- The last frame not after a time has to be the one of that time. -/
def fetch (h : History β) (time : Nat) : Fetch β :=
  let place := h.cut (· ≤ time)
  match (h.take place).getLast?.filter (·.1 = time) with
  | some e => .found e.2
  | none => .missing (capped (h.length - place)) (capped place)

end History
end MediaSession
