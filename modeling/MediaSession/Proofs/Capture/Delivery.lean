import Mathlib.Data.List.Basic
import Mathlib.Data.List.Induction
import MediaSession.Capture.Pacing

/-!
# MediaSession.Proofs.Capture.Delivery

A task that ticks a capture, a consumer at the other end of its queue, and whoever may stop it, in
any interleaving: a timer that has gone off and a stop that has been asked for may be seen in
either order.

* `Delivery`, `Delivery.Event`, `Delivery.run`: the parties, and what they can do; the ticks of a
  pacer as they fall due are such a run (`exists_ticksUntil`)
* `Output`, `Delivery.outputs`: the ticks of a run, each with the queue as it was then
* `Delivery.Conserved`: the invariant; all frames that found room were received, are waiting, or
  were left behind by a consumer that went away
* `Delivery.Ends`: why a task does not run any more
* `frames_reach_consumer`: both, for every run with devices that do not bring down the task
-/

namespace MediaSession

/-- A tick of the task, and how it found the queue to the consumer. -/
structure Output where
  result : Except Fault TickYield
  queued : Nat
  isOpen : Bool

namespace Output

def of (outlet : Outlet) (t : Tick) : Output := ⟨t.result, outlet.waiting.length, outlet.isOpen⟩

def frame? (o : Output) : Option Buffer :=
  match o.result with
  | .ok (.produced frame) => some frame
  | _ => none

/-- The frame, if fewer than `capacity` were waiting. -/
def fitting? (capacity : Nat) (o : Output) : Option Buffer :=
  if o.queued < capacity then o.frame? else none

/-- The frame, if there was room for it and someone to take it. -/
def taken? (capacity : Nat) (o : Output) : Option Buffer :=
  if o.isOpen then o.fitting? capacity else none

/-- Ticks after which the task does not go on: a fatal fault, or a frame that nobody takes. -/
def ends (o : Output) : Bool :=
  match o.result with
  | .ok .disabled => false
  | .ok (.produced _) => !o.isOpen
  | .error fault => fault.isFatal

end Output

/-- A pacer between its consumer and whoever may stop it. -/
structure Delivery where
  paced : Paced
  /-- The frames that the consumer took from the queue. -/
  received : List Buffer := []
  /-- Those that waited when the consumer went away. -/
  lost : List Buffer := []
  stopAsked : Bool := false
  /-- Nobody can ask for a stop any more. -/
  abandoned : Bool := false

namespace Delivery

inductive Event
  /-- The timer goes off, and the task sees it. -/
  | tick (device : Device Buffer) (time : Nat)
  | post (m : Command)
  /-- The consumer takes the frame that waits longest. -/
  | receive
  /-- The consumer takes no new frames, and goes on with those that wait. -/
  | close
  /-- The consumer goes away. -/
  | leave
  | stop
  | abandon
  /-- The task looks whether it should stop. -/
  | notice

/-- No event but these ends what the consumer takes. -/
def Event.keepsOpen : Event → Bool
  | .close => false
  | .leave => false
  | _ => true

/-- The device does not bring down whoever asks it. -/
def Event.Calm : Event → Prop
  | .tick device _ => ∀ d time, device.crashes d time = false
  | _ => True

def outlet (s : Delivery) : Outlet := s.paced.pacer.outlet

def waiting (s : Delivery) : List Buffer := s.outlet.waiting

def task (s : Delivery) : PaceTask := s.paced.pacer.task

def withPacer (s : Delivery) (pacer : Pacer) : Delivery :=
  { s with paced := { s.paced with pacer := pacer } }

def withOutlet (s : Delivery) (outlet : Outlet) : Delivery :=
  s.withPacer { s.paced.pacer with outlet := outlet }

/-- A new task with a queue to its consumer. -/
def spawn (c : Capture) (capacity : Nat) (pool : Pool) : Delivery :=
  { paced := { pacer := Pacer.start c capacity, pool } }

def after (s : Delivery) : Event → Delivery
  | .tick device time => { s with paced := Pacer.tick s.paced device time }
  | .post m => s.withPacer ((s.paced.pacer.post m).toOption.getD s.paced.pacer)
  | .receive =>
    match s.waiting with
    | [] => s
    | frame :: rest =>
      { s.withOutlet { s.outlet with waiting := rest } with received := s.received ++ [frame] }
  | .close => s.withOutlet { s.outlet with isOpen := false }
  | .leave => { s.withPacer s.paced.pacer.closeOutlet with lost := s.lost ++ s.waiting }
  | .stop => { s with stopAsked := true }
  | .abandon => { s with abandoned := true }
  | .notice =>
    if (s.stopAsked || s.abandoned) && s.task.isRunning then s.withPacer s.paced.pacer.abandon
    else s

def run (s : Delivery) (es : List Event) : Delivery := es.foldl after s

/-- What comes of an event for a task that ticks then. -/
def output? (s : Delivery) : Event → Option Output
  | .tick device _ =>
    match s.task with
    | .running c => some (.of s.outlet (c.tick device s.paced.pool))
    | _ => none
  | _ => none

/-- The ticks of a run. -/
def outputs (s : Delivery) : List Event → List Output
  | [] => []
  | e :: es => (s.output? e).toList ++ (s.after e).outputs es

theorem run_append (s : Delivery) (es es' : List Event) :
    s.run (es ++ es') = (s.run es).run es' := List.foldl_append

theorem outputs_append (s : Delivery) (es es' : List Event) :
    s.outputs (es ++ es') = s.outputs es ++ (s.run es).outputs es' := by
  induction es generalizing s with
  | nil => rfl
  | cons e es ih =>
    rw [List.cons_append, outputs, ih, outputs, List.append_assoc]
    rfl

theorem outputs_concat (s : Delivery) (es : List Event) (e : Event) :
    s.outputs (es ++ [e]) = s.outputs es ++ ((s.run es).output? e).toList := by
  rw [outputs_append, outputs, outputs, List.append_nil]

/-- The ticks that a pacer takes when they fall due are a run of ticks. -/
theorem exists_ticksUntil (s : Delivery) (device : Device Buffer) (time n : Nat) :
    ∃ times : List Nat,
      s.run (times.map (.tick device)) =
        { s with paced := Pacer.ticksUntil device time n s.paced } := by
  induction n generalizing s with
  | zero => exact ⟨[], rfl⟩
  | succ n ih =>
    rw [Pacer.ticksUntil]
    split
    · let t := max s.paced.pacer.now s.paced.pacer.due
      obtain ⟨times, hrun⟩ := ih (s.after (.tick device t))
      exact ⟨t :: times, hrun⟩
    · exact ⟨[], rfl⟩

/-! ## One event -/

variable {s : Delivery} {e : Event} {es : List Event} {os : List Output} {capacity : Nat}

theorem settle_task (outlet : Outlet) (t : Tick) :
    (Pacer.settle outlet t).1 =
      if (Output.of outlet t).ends then .ended t.capture else .running t.capture := by
  unfold Pacer.settle Output.ends Output.of
  cases t.result with
  | error fault => rfl
  | ok yield =>
    cases yield with
    | disabled => rfl
    | produced frame =>
      cases outlet.isOpen with
      | false => rfl
      | true =>
        simp only [Bool.not_true, Bool.false_eq_true, if_false]
        split <;> rfl

theorem settle_outlet (outlet : Outlet) (t : Tick) :
    (Pacer.settle outlet t).2.1 =
      { outlet with
        waiting := outlet.waiting ++ ((Output.of outlet t).taken? outlet.capacity).toList } := by
  unfold Pacer.settle Output.taken? Output.fitting? Output.frame? Output.of
  obtain ⟨capacity, waiting, isOpen⟩ := outlet
  cases t.result with
  | error fault => simp
  | ok yield =>
    cases yield with
    | disabled => simp
    | produced frame =>
      cases isOpen with
      | false => simp
      | true =>
        by_cases hroom : waiting.length < capacity
        · simp [hroom]
        · simp [hroom]

theorem exists_of_isRunning {task : PaceTask} (h : task.isRunning = true) :
    ∃ c, task = .running c := by
  cases task with
  | running c => exact ⟨c, rfl⟩
  | ended c => cases h
  | crashed => cases h
  | gone => cases h

/-- A tick of a task that runs leaves the task and the queue as its output says. -/
theorem after_tick {device : Device Buffer} {time : Nat} {c : Capture}
    (hcalm : (Event.tick device time).Calm) (hrun : s.task = .running c) :
    let o := Output.of s.outlet (c.tick device s.paced.pool)
    s.output? (.tick device time) = some o ∧
      (s.after (.tick device time)).outlet =
        { s.outlet with waiting := s.waiting ++ (o.taken? s.outlet.capacity).toList } ∧
      ∃ c', (s.after (.tick device time)).task = if o.ends then .ended c' else .running c' := by
  intro o
  have houtput : s.output? (.tick device time) = some o := by
    rw [output?, hrun]
  have hnever : (c.tick device s.paced.pool).requests.any (device.crashes c.deviceId) = false :=
    List.any_eq_false.mpr fun t _ => by simp [hcalm c.deviceId t]
  have hafter : s.after (.tick device time) = { s with
      paced := Pacer.tick s.paced device time } := rfl
  have htask : s.paced.pacer.task = .running c := hrun
  refine ⟨houtput, ?_, (c.tick device s.paced.pool).capture, ?_⟩
  · rw [hafter, outlet, Pacer.tick, htask]
    simp only [hnever, Bool.false_eq_true, if_false]
    exact settle_outlet _ _
  · rw [hafter, task, Pacer.tick, htask]
    simp only [hnever, Bool.false_eq_true, if_false]
    exact settle_task _ _

/-- A task that does not run takes no tick. -/
theorem tick_of_not_running (hrun : s.task.isRunning = false) (device : Device Buffer)
    (time : Nat) : s.output? (.tick device time) = none ∧ s.after (.tick device time) = s := by
  have htask : s.paced.pacer.task = s.task := rfl
  cases h : s.task with
  | running c =>
    rw [h] at hrun
    cases hrun
  | ended c => simp [output?, after, Pacer.tick, htask, h]
  | crashed => simp [output?, after, Pacer.tick, htask, h]
  | gone => simp [output?, after, Pacer.tick, htask, h]

theorem outlet_post (s : Delivery) (m : Command) : (s.after (.post m)).outlet = s.outlet := by
  simp only [after, withPacer, outlet, Pacer.post]
  cases s.paced.pacer.task.capture? with
  | none => rfl
  | some c =>
    dsimp only
    cases c.post m <;> rfl

theorem task_post (s : Delivery) (m : Command) :
    (s.after (.post m)).task = s.task ∨ ∃ c, (s.after (.post m)).task = s.task.withCapture c := by
  simp only [after, withPacer, task, Pacer.post]
  cases s.paced.pacer.task.capture? with
  | none => exact .inl rfl
  | some c =>
    dsimp only
    cases c.post m with
    | error fault => exact .inl rfl
    | ok c' => exact .inr ⟨c', rfl⟩

theorem task_receive (s : Delivery) : (s.after .receive).task = s.task := by
  simp only [after]
  split <;> rfl

theorem isRunning_withCapture (task : PaceTask) (c : Capture) :
    (task.withCapture c).isRunning = task.isRunning := by
  cases task <;> rfl

/-! ## Frames -/

/-- Every frame that was taken into the queue is where it should be, in order. -/
structure Conserved (capacity : Nat) (s : Delivery) (os : List Output) : Prop where
  capacity_eq : s.outlet.capacity = capacity
  frames : s.received ++ s.lost ++ s.waiting = os.filterMap (Output.taken? capacity)
  room : s.waiting.length ≤ capacity
  /-- Frames are left behind by a consumer that has gone. -/
  left : s.lost ≠ [] → s.waiting = [] ∧ s.outlet.isOpen = false

theorem length_taken_le {queued : Nat} {o : Output} (hroom : queued ≤ capacity)
    (ho : o.queued = queued) : queued + (o.taken? capacity).toList.length ≤ capacity := by
  by_cases hfits : o.queued < capacity
  · have hone : (o.taken? capacity).toList.length ≤ 1 := by
      cases o.taken? capacity <;> simp
    omega
  · have hnone : o.taken? capacity = none := by
      rw [Output.taken?, Output.fitting?, if_neg hfits, ite_self]
    rw [hnone]
    exact hroom

/-- Events that concern neither the queue nor the consumer. -/
theorem Conserved.of_same {s' : Delivery} (h : s.Conserved capacity os)
    (houtlet : s'.outlet = s.outlet) (hreceived : s'.received = s.received)
    (hlost : s'.lost = s.lost) : s'.Conserved capacity os := by
  have hwaiting : s'.waiting = s.waiting := congrArg Outlet.waiting houtlet
  exact ⟨houtlet ▸ h.capacity_eq, by rw [hreceived, hlost, hwaiting]; exact h.frames,
    hwaiting ▸ h.room, by rw [hlost, hwaiting, houtlet]; exact h.left⟩

theorem Conserved.tick (h : s.Conserved capacity os) {device : Device Buffer} {time : Nat}
    (hcalm : (Event.tick device time).Calm) :
    (s.after (.tick device time)).Conserved capacity
      (os ++ (s.output? (.tick device time)).toList) := by
  cases hrun : s.task.isRunning with
  | false =>
    obtain ⟨hnone, hsame⟩ := tick_of_not_running hrun device time
    rw [hsame, hnone, Option.toList_none, List.append_nil]
    exact h
  | true =>
    obtain ⟨c, hrun⟩ := exists_of_isRunning hrun
    obtain ⟨houtput, houtlet, -⟩ := after_tick hcalm hrun
    let o := Output.of s.outlet (c.tick device s.paced.pool)
    have hwaiting : (s.after (.tick device time)).waiting =
        s.waiting ++ (o.taken? capacity).toList := by
      rw [← h.capacity_eq]
      exact congrArg Outlet.waiting houtlet
    refine ⟨(congrArg Outlet.capacity houtlet).trans h.capacity_eq, ?_, ?_, fun hlost => ?_⟩
    · rw [houtput, hwaiting, List.filterMap_append, ← h.frames]
      simp only [Option.toList_some, List.append_assoc]
      cases htaken : o.taken? capacity <;> simp [Delivery.after, o, htaken]
    · rw [hwaiting, List.length_append]
      exact length_taken_le h.room (o := o) rfl
    · -- a consumer that has gone takes nothing
      obtain ⟨hnone, hclosed⟩ := h.left hlost
      have hrefused : o.taken? capacity = none := if_neg (by simp [o, Output.of, hclosed])
      refine ⟨by rw [hwaiting, hnone, hrefused]; rfl, ?_⟩
      exact (congrArg Outlet.isOpen houtlet).trans hclosed

/-- Nothing is left behind as long as the consumer is there. -/
theorem Conserved.lost_eq_nil (h : s.Conserved capacity os)
    (hthere : s.waiting ≠ [] ∨ s.outlet.isOpen = true) : s.lost = [] := by
  cases hlost : s.lost with
  | nil => rfl
  | cons b bs =>
    obtain ⟨hnone, hclosed⟩ := h.left (by simp [hlost])
    rcases hthere with hwaiting | hopen
    · exact absurd hnone hwaiting
    · exact absurd (hclosed.symm.trans hopen) Bool.false_ne_true

theorem Conserved.receive (h : s.Conserved capacity os) :
    (s.after .receive).Conserved capacity os := by
  simp only [after]
  cases hwaiting : s.waiting with
  | nil => exact h
  | cons frame rest =>
    have hlost : s.lost = [] := h.lost_eq_nil (.inl (by simp [hwaiting]))
    have hframes := h.frames
    have hroom := h.room
    rw [hwaiting, hlost] at hframes
    rw [hwaiting, List.length_cons] at hroom
    refine ⟨h.capacity_eq, ?_, Nat.le_of_succ_le hroom, fun hne => absurd hlost hne⟩
    simpa [waiting, outlet, withOutlet, withPacer, hlost] using hframes

theorem Conserved.leave (h : s.Conserved capacity os) :
    (s.after .leave).Conserved capacity os := by
  refine ⟨h.capacity_eq, ?_, Nat.zero_le _, fun _ => ⟨rfl, rfl⟩⟩
  have hframes := h.frames
  have hempty : (s.after .leave).waiting = [] := rfl
  rw [hempty, List.append_nil, ← hframes]
  exact (List.append_assoc _ _ _).symm

theorem Conserved.after (h : s.Conserved capacity os) (hcalm : e.Calm) :
    (s.after e).Conserved capacity (os ++ (s.output? e).toList) := by
  have hsilent (hconserved : (s.after e).Conserved capacity os) (hnone : s.output? e = none) :
      (s.after e).Conserved capacity (os ++ (s.output? e).toList) := by
    rw [hnone, Option.toList_none, List.append_nil]
    exact hconserved
  cases e with
  | tick device time => exact h.tick hcalm
  | post m => exact hsilent (h.of_same (outlet_post s m) rfl rfl) rfl
  | receive => exact hsilent h.receive rfl
  | close =>
    exact hsilent ⟨h.capacity_eq, h.frames, h.room, fun hlost => ⟨(h.left hlost).1, rfl⟩⟩ rfl
  | leave => exact hsilent h.leave rfl
  | stop => exact hsilent (h.of_same rfl rfl rfl) rfl
  | abandon => exact hsilent (h.of_same rfl rfl rfl) rfl
  | notice =>
    refine hsilent ?_ rfl
    simp only [Delivery.after]
    split
    · exact h.of_same rfl rfl rfl
    · exact h

theorem conserved_spawn (c : Capture) (capacity : Nat) (pool : Pool) :
    (spawn c capacity pool).Conserved capacity [] :=
  ⟨rfl, rfl, Nat.zero_le _, fun hlost => absurd rfl hlost⟩

theorem Conserved.run (h : s.Conserved capacity os) (hcalm : ∀ e ∈ es, e.Calm) :
    (s.run es).Conserved capacity (os ++ s.outputs es) := by
  induction es generalizing s os with
  | nil => simpa [outputs, Delivery.run] using h
  | cons e es ih =>
    obtain ⟨hfirst, hrest⟩ := List.forall_mem_cons.mp hcalm
    have hrun := ih (h.after hfirst) hrest
    rw [List.append_assoc] at hrun
    exact hrun

/-! ## The consumer -/

theorem isOpen_after (hcalm : e.Calm) :
    (s.after e).outlet.isOpen = (s.outlet.isOpen && e.keepsOpen) := by
  cases e with
  | tick device time =>
    simp only [Event.keepsOpen, Bool.and_true]
    cases hrun : s.task.isRunning with
    | false => rw [(tick_of_not_running hrun device time).2]
    | true =>
      obtain ⟨c, hrun⟩ := exists_of_isRunning hrun
      rw [(after_tick hcalm hrun).2.1]
  | post m => simp [outlet_post, Event.keepsOpen]
  | receive =>
    simp only [after, Event.keepsOpen, Bool.and_true]
    split <;> rfl
  | close => simp [after, withOutlet, withPacer, outlet, Event.keepsOpen]
  | leave => simp [after, withPacer, outlet, Pacer.closeOutlet, Event.keepsOpen]
  | stop => simp [after, outlet, Event.keepsOpen]
  | abandon => simp [after, outlet, Event.keepsOpen]
  | notice =>
    simp only [after, Event.keepsOpen, Bool.and_true]
    split <;> rfl

theorem isOpen_run (hcalm : ∀ e ∈ es, e.Calm) :
    (s.run es).outlet.isOpen = (s.outlet.isOpen && es.all Event.keepsOpen) := by
  induction es generalizing s with
  | nil => simp [run]
  | cons e es ih =>
    obtain ⟨hfirst, hrest⟩ := List.forall_mem_cons.mp hcalm
    have hrun : s.run (e :: es) = (s.after e).run es := rfl
    rw [hrun, ih hrest, isOpen_after hfirst, List.all_cons, Bool.and_assoc]

theorem isOpen_of_output? {o : Output} (h : s.output? e = some o) :
    o.isOpen = s.outlet.isOpen := by
  cases e with
  | tick device time =>
    simp only [output?] at h
    split at h
    · cases h
      rfl
    · cases h
  | _ => cases h

/-- As long as the consumer takes frames, every tick finds the queue open. -/
theorem isOpen_outputs (hcalm : ∀ e ∈ es, e.Calm) (hopen : s.outlet.isOpen = true)
    (hkeeps : ∀ e ∈ es, e.keepsOpen = true) : ∀ o ∈ s.outputs es, o.isOpen = true := by
  induction es generalizing s with
  | nil => simp [outputs]
  | cons e es ih =>
    obtain ⟨hcalm, hcalms⟩ := List.forall_mem_cons.mp hcalm
    obtain ⟨hkeep, hkeeps⟩ := List.forall_mem_cons.mp hkeeps
    intro o ho
    rw [outputs, List.mem_append, Option.mem_toList] at ho
    rcases ho with ho | ho
    · rw [isOpen_of_output? ho, hopen]
    · exact ih hcalms (by rw [isOpen_after hcalm, hopen, hkeep]; rfl) hkeeps o ho

/-- Once it takes none, it never does again. -/
theorem isClosed_outputs (hcalm : ∀ e ∈ es, e.Calm) (hclosed : s.outlet.isOpen = false) :
    ∀ o ∈ s.outputs es, o.isOpen = false := by
  induction es generalizing s with
  | nil => simp [outputs]
  | cons e es ih =>
    obtain ⟨hcalm, hcalms⟩ := List.forall_mem_cons.mp hcalm
    intro o ho
    rw [outputs, List.mem_append, Option.mem_toList] at ho
    rcases ho with ho | ho
    · rw [isOpen_of_output? ho, hclosed]
    · exact ih hcalms (by rw [isOpen_after hcalm, hclosed]; rfl) o ho

/-! ## The end -/

/-- Why a task has come to what it is, after the events and with the outputs of a run. -/
inductive Ends (es : List Event) (os : List Output) : PaceTask → Prop where
  | running {c : Capture} (hgoes : ∀ o ∈ os, o.ends = false) : Ends es os (.running c)
  | stopped (hasked : .stop ∈ es ∨ .abandon ∈ es) (hgoes : ∀ o ∈ os, o.ends = false) :
      Ends es os .gone
  | ended {c : Capture} {before : List Output} {last : Output} (hos : os = before ++ [last])
      (hgoes : ∀ o ∈ before, o.ends = false) (hends : last.ends = true) : Ends es os (.ended c)

theorem Ends.mono {task : PaceTask} (h : Ends es os task) (e : Event) :
    Ends (es ++ [e]) os task := by
  cases h with
  | running hgoes => exact .running hgoes
  | stopped hasked hgoes =>
    exact .stopped (hasked.imp (List.mem_append_left _) (List.mem_append_left _)) hgoes
  | ended hos hgoes hends => exact .ended hos hgoes hends

theorem Ends.withCapture {task : PaceTask} (h : Ends es os task) (c : Capture) :
    Ends es os (task.withCapture c) := by
  cases h with
  | running hgoes => exact .running hgoes
  | stopped hasked hgoes => exact .stopped hasked hgoes
  | ended hos hgoes hends => exact .ended hos hgoes hends

theorem Ends.tick (h : Ends es os s.task) {device : Device Buffer} {time : Nat}
    (hcalm : (Event.tick device time).Calm) :
    Ends (es ++ [.tick device time]) (os ++ (s.output? (.tick device time)).toList)
      (s.after (.tick device time)).task := by
  cases hrun : s.task.isRunning with
  | false =>
    obtain ⟨hnone, hsame⟩ := tick_of_not_running hrun device time
    rw [hsame, hnone, Option.toList_none, List.append_nil]
    exact h.mono _
  | true =>
    obtain ⟨c, hrun⟩ := exists_of_isRunning hrun
    obtain ⟨houtput, -, c', htask⟩ := after_tick hcalm hrun
    rw [hrun] at h
    cases h with
    | running hgoes =>
      rw [htask, houtput, Option.toList_some]
      split
      · rename_i hends
        exact .ended rfl hgoes hends
      · rename_i hends
        refine .running fun o ho => ?_
        rcases List.mem_append.mp ho with ho | ho
        · exact hgoes o ho
        · rw [List.mem_singleton.mp ho]
          exact Bool.eq_false_iff.mpr hends

/-- What the task looks for was asked for. -/
structure Flagged (s : Delivery) (es : List Event) : Prop where
  stopAsked : s.stopAsked = true → .stop ∈ es
  abandoned : s.abandoned = true → .abandon ∈ es

theorem flagged_after (h : s.Flagged es) (e : Event) : (s.after e).Flagged (es ++ [e]) := by
  have hkept {s' : Delivery} (hstop : s'.stopAsked = s.stopAsked)
      (habandoned : s'.abandoned = s.abandoned) : s'.Flagged (es ++ [e]) :=
    ⟨fun hasked => List.mem_append_left _ (h.stopAsked (hstop ▸ hasked)),
      fun hasked => List.mem_append_left _ (h.abandoned (habandoned ▸ hasked))⟩
  cases e with
  | tick device time => exact hkept rfl rfl
  | post m => exact hkept rfl rfl
  | receive =>
    simp only [after]
    split
    · exact hkept rfl rfl
    · exact hkept rfl rfl
  | close => exact hkept rfl rfl
  | leave => exact hkept rfl rfl
  | stop => exact ⟨fun _ => by simp, fun hasked => List.mem_append_left _ (h.abandoned hasked)⟩
  | abandon => exact ⟨fun hasked => List.mem_append_left _ (h.stopAsked hasked), fun _ => by simp⟩
  | notice =>
    simp only [after]
    split
    · exact hkept rfl rfl
    · exact hkept rfl rfl

/-- An event that leaves the task alone. -/
theorem Ends.of_same (h : Ends es os s.task) (htask : (s.after e).task = s.task)
    (hnone : s.output? e = none) :
    Ends (es ++ [e]) (os ++ (s.output? e).toList) (s.after e).task := by
  rw [htask, hnone, Option.toList_none, List.append_nil]
  exact h.mono e

theorem Ends.after (h : Ends es os s.task) (hflagged : s.Flagged es) (hcalm : e.Calm) :
    Ends (es ++ [e]) (os ++ (s.output? e).toList) (s.after e).task := by
  cases e with
  | tick device time => exact h.tick hcalm
  | post m =>
    have hnone : s.output? (.post m) = none := rfl
    rcases task_post s m with htask | ⟨c, htask⟩
    · exact h.of_same htask hnone
    · rw [htask, hnone, Option.toList_none, List.append_nil]
      exact (h.mono _).withCapture c
  | receive => exact h.of_same s.task_receive rfl
  | close => exact h.of_same rfl rfl
  | leave => exact h.of_same rfl rfl
  | stop => exact h.of_same rfl rfl
  | abandon => exact h.of_same rfl rfl
  | notice =>
    by_cases hstops : ((s.stopAsked || s.abandoned) && s.task.isRunning) = true
    · obtain ⟨hflag, hrun⟩ := Bool.and_eq_true_iff.mp hstops
      obtain ⟨c, hrun⟩ := exists_of_isRunning hrun
      have hnone : s.output? .notice = none := rfl
      have htask : (s.after .notice).task = .gone := by
        simp only [Delivery.after, if_pos hstops]
        rfl
      have hasked : .stop ∈ es ∨ .abandon ∈ es :=
        (Bool.or_eq_true_iff.mp hflag).imp hflagged.stopAsked hflagged.abandoned
      rw [hrun] at h
      rw [htask, hnone, Option.toList_none, List.append_nil]
      cases h with
      | running hgoes => exact (Ends.stopped hasked hgoes).mono _
    · exact h.of_same (by simp only [Delivery.after, if_neg hstops]) rfl

/-- Every run from a new task leaves a task that runs, or one that has ended for a reason. -/
theorem ends_spawn (c : Capture) (capacity : Nat) (pool : Pool) (hcalm : ∀ e ∈ es, e.Calm) :
    let s := spawn c capacity pool
    Ends es (s.outputs es) (s.run es).task ∧ (s.run es).Flagged es := by
  intro s
  induction es using List.reverseRecOn with
  | nil => exact ⟨.running (by simp [outputs]), by simp [run, s, spawn], by simp [run, s, spawn]⟩
  | append_singleton es e ih =>
    obtain ⟨hends, hflagged⟩ := ih fun e' he' => hcalm e' (List.mem_append_left _ he')
    have hrun : s.run (es ++ [e]) = (s.run es).after e := run_append s es [e]
    rw [hrun, outputs_concat]
    exact ⟨hends.after hflagged (hcalm e (by simp)), flagged_after hflagged e⟩

/-! ## After the end -/

/-- A task that does not run takes no tick, and does not run again. -/
theorem not_running_after (hrun : s.task.isRunning = false) (e : Event) :
    s.output? e = none ∧ (s.after e).task.isRunning = false := by
  cases e with
  | tick device time =>
    obtain ⟨hnone, hsame⟩ := tick_of_not_running hrun device time
    exact ⟨hnone, by rw [hsame, hrun]⟩
  | post m =>
    refine ⟨rfl, ?_⟩
    rcases task_post s m with htask | ⟨c, htask⟩
    · rw [htask, hrun]
    · rw [htask, isRunning_withCapture, hrun]
  | receive => exact ⟨rfl, s.task_receive.symm ▸ hrun⟩
  | close => exact ⟨rfl, hrun⟩
  | leave => exact ⟨rfl, hrun⟩
  | stop => exact ⟨rfl, hrun⟩
  | abandon => exact ⟨rfl, hrun⟩
  | notice =>
    refine ⟨rfl, ?_⟩
    simp only [after, hrun, Bool.and_false, Bool.false_eq_true, if_false]

theorem not_running_run (hrun : s.task.isRunning = false) (es : List Event) :
    s.outputs es = [] ∧ (s.run es).task.isRunning = false := by
  induction es generalizing s with
  | nil => exact ⟨rfl, hrun⟩
  | cons e es ih =>
    obtain ⟨hnone, hafter⟩ := not_running_after hrun e
    obtain ⟨hlater, hend⟩ := ih hafter
    exact ⟨by rw [outputs, hnone, hlater]; rfl, hend⟩

/-- A frame that nobody takes is the last thing that comes of a task. -/
theorem Ends.length_refused_le {task : PaceTask} (h : Ends es os task) :
    (os.filter fun o => !o.isOpen && o.frame?.isSome).length ≤ 1 := by
  have hends {o : Output} (ho : (!o.isOpen && o.frame?.isSome) = true) : o.ends = true := by
    obtain ⟨result, queued, isOpen⟩ := o
    cases result with
    | error fault => simp [Output.frame?] at ho
    | ok yield =>
      cases yield with
      | disabled => simp [Output.frame?] at ho
      | produced frame => simpa [Output.frame?, Output.ends] using ho
  have hnone {os : List Output} (hgoes : ∀ o ∈ os, o.ends = false) :
      os.filter (fun o => !o.isOpen && o.frame?.isSome) = [] :=
    List.filter_eq_nil_iff.mpr fun o ho hrefused =>
      Bool.false_ne_true ((hgoes o ho).symm.trans (hends hrefused))
  cases h with
  | running hgoes => simp [hnone hgoes]
  | stopped hasked hgoes => simp [hnone hgoes]
  | @ended c before last hos hgoes hends =>
    rw [hos, List.filter_append, hnone hgoes, List.nil_append]
    exact List.length_filter_le _ [last]

/-- At most one frame comes of the rest of a run once the consumer takes none. -/
theorem length_frames_closed_le (c : Capture) (capacity : Nat) (pool : Pool)
    {later : List Event} (hcalm : ∀ e ∈ es ++ later, e.Calm)
    (hclosed : ((spawn c capacity pool).run es).outlet.isOpen = false) :
    ((((spawn c capacity pool).run es).outputs later).filterMap Output.frame?).length ≤ 1 := by
  have hends := (ends_spawn c capacity pool hcalm).1.length_refused_le
  have hlater : ∀ o ∈ ((spawn c capacity pool).run es).outputs later, o.isOpen = false :=
    isClosed_outputs (fun e he => hcalm e (List.mem_append_right _ he)) hclosed
  have hrefused : (((spawn c capacity pool).run es).outputs later).filter
      (fun o => !o.isOpen && o.frame?.isSome) =
        (((spawn c capacity pool).run es).outputs later).filter fun o => o.frame?.isSome :=
    List.filter_congr fun o ho => by rw [hlater o ho, Bool.not_false, Bool.true_and]
  rw [outputs_append, List.filter_append, List.length_append, hrefused] at hends
  rw [List.length_filterMap_eq_countP, List.countP_eq_length_filter]
  omega

/-- A consumer that takes no new frames loses and gains none by what else happens. -/
theorem Conserved.held_run {later : List Event} (h : s.Conserved capacity os)
    (hcalm : ∀ e ∈ later, e.Calm) (hclosed : s.outlet.isOpen = false) :
    (s.run later).received ++ (s.run later).lost ++ (s.run later).waiting =
      s.received ++ s.lost ++ s.waiting := by
  have hnone : (s.outputs later).filterMap (Output.taken? capacity) = [] :=
    List.filterMap_eq_nil_iff.mpr fun o ho => if_neg (by
      rw [isClosed_outputs hcalm hclosed o ho]
      exact Bool.false_ne_true)
  rw [(h.run hcalm).frames, List.filterMap_append, hnone, List.append_nil, h.frames]

/-- While the consumer takes frames it has, or can have, all that found room. -/
theorem Conserved.frames_of_isOpen (h : s.Conserved capacity os)
    (hopen : s.outlet.isOpen = true) (houtputs : ∀ o ∈ os, o.isOpen = true) :
    s.received ++ s.waiting = os.filterMap (Output.fitting? capacity) := by
  have hlost : s.lost = [] := h.lost_eq_nil (.inr hopen)
  have htaken : os.filterMap (Output.taken? capacity) =
      os.filterMap (Output.fitting? capacity) :=
    List.filterMap_congr fun o ho => if_pos (houtputs o ho)
  have hframes := h.frames
  rw [hlost, List.append_nil, htaken] at hframes
  exact hframes

end Delivery

open Delivery in
/--
For every interleaving of ticks with calm devices, messages, what the consumer does, and what is
asked of the task: as long as the consumer takes frames, those that it received and those that
wait are the produced ones that found room, in order; from its end on no frame goes to the queue,
and at most one more is produced. The task runs until a stop is asked for and noticed, or until a
tick that ends it, and then never again.
-/
theorem frames_reach_consumer (c : Capture) (capacity : Nat) (pool : Pool)
    {es : List Delivery.Event} (hcalm : ∀ e ∈ es, e.Calm) :
    let start := spawn c capacity pool
    let s := start.run es
    let os := start.outputs es
    s.waiting.length ≤ capacity ∧
      ((∀ e ∈ es, e.keepsOpen = true) →
        s.received ++ s.waiting = os.filterMap (Output.fitting? capacity)) ∧
      ((∃ e ∈ es, e.keepsOpen = false) → ∀ later : List Delivery.Event, (∀ e ∈ later, e.Calm) →
        (s.run later).received ++ (s.run later).lost ++ (s.run later).waiting =
            s.received ++ s.lost ++ s.waiting ∧
          ((s.outputs later).filterMap Output.frame?).length ≤ 1) ∧
      Ends es os s.task ∧
      (s.task.isRunning = false → ∀ later : List Delivery.Event,
        s.outputs later = [] ∧ (s.run later).task.isRunning = false) := by
  intro start s os
  have hconserved : s.Conserved capacity os := (conserved_spawn c capacity pool).run hcalm
  have hopen : s.outlet.isOpen = es.all Event.keepsOpen := isOpen_run hcalm
  refine ⟨hconserved.room, fun hkeeps => ?_, fun ⟨e, he, hends⟩ later hlater => ?_,
    (ends_spawn c capacity pool hcalm).1, not_running_run⟩
  · exact hconserved.frames_of_isOpen (hopen.trans (List.all_eq_true.mpr hkeeps))
      (isOpen_outputs hcalm rfl hkeeps)
  · have hclosed : s.outlet.isOpen = false :=
      hopen.trans (List.all_eq_false.mpr ⟨e, he, by rw [hends]; exact Bool.false_ne_true⟩)
    exact ⟨hconserved.held_run hlater hclosed,
      length_frames_closed_le c capacity pool (List.forall_mem_append.mpr ⟨hcalm, hlater⟩) hclosed⟩

open Delivery in
/-- One frame finds the queue full, and the one after the close nobody takes. -/
theorem frames_reach_consumer_full :
    ∃ (c : Capture) (pool : Pool) (opened later : List Delivery.Event),
      let s := (spawn c 1 pool).run opened
      (s.received = [⟨0⟩] ∧ s.waiting = [⟨2⟩]) ∧
        s.received ++ s.waiting =
          ((spawn c 1 pool).outputs opened).filterMap (Output.fitting? 1) ∧
        ((spawn c 1 pool).outputs (opened ++ later)).map Output.frame? =
          [some ⟨0⟩, some ⟨1⟩, some ⟨2⟩, some ⟨3⟩] ∧
        Ends (opened ++ later) ((spawn c 1 pool).outputs (opened ++ later))
          ((spawn c 1 pool).run (opened ++ later)).task := by
  let device : Device Buffer :=
    { currentTime := fun _ => 0, answer := fun _ _ t => .found ⟨t / 10⟩
      sampleRate := fun _ => some 8000, name := fun _ => none }
  let c : Capture :=
    { name := "mic", deviceId := ⟨1⟩, wired := true, settings := {}
      clock := { interval := 10, maxSteps := 64 }, converter := ⟨8000, 8000⟩
      commands := { depth := 32 } }
  let pool : Pool := { cells := #[⟨#[1], 1⟩, ⟨#[2], 1⟩, ⟨#[3], 1⟩, ⟨#[4], 1⟩] }
  let opened : List Delivery.Event :=
    [.tick device 0, .tick device 10, .receive, .tick device 20]
  let later : List Delivery.Event := [.close, .tick device 30, .tick device 40]
  have hcalm : ∀ e ∈ opened ++ later, e.Calm := by
    simp [opened, later, Event.Calm, device]
  have hopened : ∀ e ∈ opened, e.Calm := fun e he => hcalm e (List.mem_append_left _ he)
  have hkeeps : ∀ e ∈ opened, e.keepsOpen = true := by simp [opened, Event.keepsOpen]
  obtain ⟨-, hframes, -⟩ := frames_reach_consumer c 1 pool hopened
  obtain ⟨-, -, -, hends, -⟩ := frames_reach_consumer c 1 pool hcalm
  exact ⟨c, pool, opened, later, ⟨by decide, by decide⟩, hframes hkeeps, by decide, hends⟩

end MediaSession
