import MediaSession.Capture.Basic

/-!
# MediaSession.Capture.Pacing

A capture ticked once every frame interval on a clock of whole milliseconds, its frames handed to
a consumer through a bounded queue.

* `Pacer`: the time, the task that ticks, and the queue to the consumer
* `Pacer.tick`: one tick, and what becomes of its frame
* `Pacer.runUntil`: all ticks that fall due up to a time
* `Pacer.post`, `Pacer.send`: control messages, without and with waiting
* `Pacer.stop`: the end of the task, with the capture given back
-/

namespace MediaSession

/-- Frames on their way to the consumer, the oldest first. -/
structure Outlet where
  capacity : Nat
  waiting : List Buffer := []
  /-- Whether the consumer still takes frames. -/
  isOpen : Bool := true

inductive PaceTask
  | running (capture : Capture)
  /-- Ended by itself, with the capture kept for whoever stops the task. -/
  | ended (capture : Capture)
  /-- Brought down by the device, the capture lost. -/
  | crashed
  /-- Stopped or given up. -/
  | gone

structure Pacer where
  now : Nat := 0
  /-- When the next tick is scheduled. -/
  due : Nat := 0
  period : Nat
  task : PaceTask
  outlet : Outlet

/-- A pacer with the samples it works on, and the device times it asked for. -/
structure Paced where
  pacer : Pacer
  pool : Pool
  /-- Every request so far, the latest first. -/
  asked : List FrameTime := []

namespace PaceTask

def capture? : PaceTask → Option Capture
  | .running c => some c
  | .ended c => some c
  | .crashed => none
  | .gone => none

def isRunning : PaceTask → Bool
  | .running _ => true
  | _ => false

def withCapture (c : Capture) : PaceTask → PaceTask
  | .running _ => .running c
  | .ended _ => .ended c
  | t => t

end PaceTask

namespace Pacer

/-- The first tick is due at once, and the others one frame interval apart. -/
def start (c : Capture) (outputDepth : Nat) : Pacer :=
  { period := max c.settings.interval 1
    task := .running c
    outlet := { capacity := outputDepth } }

/-- Whether the task has ended; nothing is known of one that was stopped or given up. -/
def finished? (p : Pacer) : Option Bool :=
  match p.task with
  | .running _ => some false
  | .ended _ => some true
  | .crashed => some true
  | .gone => none

/-- A tick that is late by more than this many milliseconds makes the schedule skip. -/
def tolerance : Nat := 5

/--
The tick after one that was scheduled for a time and taken at a later one. A tick in good time is
followed one period after its schedule; after a late one the schedule goes on from its next
regular time that is still to come.
-/
def following (scheduled taken period : Nat) : Nat :=
  if scheduled + tolerance < taken then taken + period - (taken - scheduled) % period
  else scheduled + period

/--
What becomes of the task and of the frame when a tick gave a result. A full queue loses the frame;
a consumer that takes none any more, or a fatal fault, ends the task.
-/
def settle (outlet : Outlet) (t : Tick) : PaceTask × Outlet × Pool :=
  match t.result with
  | .ok .disabled => (.running t.capture, outlet, t.pool)
  | .ok (.produced frame) =>
    if !outlet.isOpen then (.ended t.capture, outlet, t.pool.release frame)
    else if outlet.waiting.length < outlet.capacity then
      (.running t.capture, { outlet with waiting := outlet.waiting ++ [frame] }, t.pool)
    else (.running t.capture, outlet, t.pool.release frame)
  | .error fault =>
    (if fault.isFatal then .ended t.capture else .running t.capture, outlet, t.pool)

/-- The tick that is due, taken at a time; a task that does not run takes none. -/
def tick (s : Paced) (device : Device Buffer) (time : Nat) : Paced :=
  match s.pacer.task with
  | .running c =>
    let t := c.tick device s.pool
    let asked := t.requests.reverse ++ s.asked
    let due := following s.pacer.due time s.pacer.period
    if t.requests.any (device.crashes c.deviceId) then
      { pacer := { s.pacer with now := time, due, task := .crashed }, pool := s.pool, asked }
    else
      let (task, outlet, pool) := settle s.pacer.outlet t
      { pacer := { s.pacer with now := time, due, task, outlet }, pool, asked }
  | _ => s

/-- Takes at most so many of the ticks that are due up to a time, each as soon as it is due. -/
def ticksUntil (device : Device Buffer) (time : Nat) : Nat → Paced → Paced
  | 0, s => s
  | n + 1, s =>
    if s.pacer.task.isRunning && decide (s.pacer.due ≤ time) then
      ticksUntil device time n (tick s device (max s.pacer.now s.pacer.due))
    else s

/-- Time goes on to a point, every tick being taken when it is due. -/
def runUntil (s : Paced) (device : Device Buffer) (time : Nat) : Paced :=
  let s := ticksUntil device time (time + 1 - s.pacer.due) s
  { s with pacer := { s.pacer with now := max s.pacer.now time } }

def sleep (s : Paced) (device : Device Buffer) (ms : Nat) : Paced :=
  runUntil s device (s.pacer.now + ms)

/-- The clock leaps, and the ticks that have fallen due are taken late. -/
def jump (s : Paced) (device : Device Buffer) (ms : Nat) : Paced :=
  let now := s.pacer.now + ms
  runUntil { s with pacer := { s.pacer with now } } device now

/-! ## Control -/

def isClosed (p : Pacer) : Bool := p.task.capture?.isNone

def post (p : Pacer) (m : Command) : Except Fault Pacer :=
  match p.task.capture? with
  | none => .error .queueClosed
  | some c =>
    match c.post m with
    | .ok c => .ok { p with task := p.task.withCapture c }
    | .error fault => .error fault

/--
Posts a message, waiting for room. The next tick makes room, and a message that waited for it is
seen by the tick after; without a tick in time the message is given up.
-/
def send (s : Paced) (device : Device Buffer) (m : Command) : Except Fault Unit × Paced :=
  match s.pacer.task.capture? with
  | none => (.error .queueClosed, s)
  | some c =>
    let deadline := s.pacer.now + c.settings.sendTimeout.millisUp
    let s :=
      if c.commands.hasRoom then s
      else if s.pacer.task.isRunning && decide (s.pacer.due ≤ deadline) then
        runUntil s device s.pacer.due
      else { s with pacer := { s.pacer with now := deadline } }
    match s.pacer.post m with
    | .ok pacer => (.ok (), { s with pacer })
    | .error .queueFull => (.error (.queueTimeout c.settings.sendTimeout), s)
    | .error fault => (.error fault, s)

/-! ## The consumer, and the end -/

def receive (p : Pacer) : List Buffer × Pacer :=
  (p.outlet.waiting, { p with outlet := { p.outlet with waiting := [] } })

/-- Nothing waits, and nothing more can come. -/
def isExhausted (p : Pacer) : Bool := p.outlet.waiting.isEmpty && !p.task.isRunning

/-- The consumer goes away, and what it left is lost. -/
def closeOutlet (p : Pacer) : Pacer :=
  { p with outlet := { p.outlet with waiting := [], isOpen := false } }

def abandon (p : Pacer) : Pacer := { p with task := .gone }

/-- Ends the task and gives its capture back, unless it crashed or is gone. -/
def stop (p : Pacer) : Except Fault Capture × Pacer :=
  match p.task.capture? with
  | some c => (.ok c, p.abandon)
  | none => (.error (.stopped "the capture task was lost"), p.abandon)

end Pacer
end MediaSession
