import MediaSession.Proofs.Capture.Messages

/-!
# MediaSession.Proofs.Capture.Failure

A capture that fails for good, in any run of its ticks and its senders.

* `Talk.Event`, `Talk.run`, `Talk.ticks`: a run, and its ticks one by one
* `Tick.Settles`, `Ticked.settles`: a tick latches the faults that are fatal, and no others
* `Talk.Failed`, `Failed.run`: what a run leaves of a capture that has failed; only the queue
  changes, and it takes messages as long as it has room
* `failure_latches`: both, for every run of a new capture
-/

namespace MediaSession

def Tick.fault? (t : Tick) : Option Fault :=
  match t.result with
  | .ok _ => none
  | .error fault => some fault

/-- Faults that cost one tick and nothing more. -/
def Fault.costsTick : Fault → Bool
  | .frameUnavailable _ _ _ _ => true
  | .conversion _ _ _ => true
  | .invalidSettings _ => true
  | _ => false

theorem Fault.isFatal_of_costsTick {f : Fault} (h : f.costsTick = true) : f.isFatal = false := by
  cases f <;> simp [costsTick, isFatal] at h ⊢

/-- What a tick leaves of its fault. -/
inductive Tick.Settles (t : Tick) : Prop where
  | fine (hfault : t.fault? = none) (hfailure : t.capture.failure = none)
  | costly {fault : Fault} (hfault : t.fault? = some fault) (hcosts : fault.costsTick = true)
      (hfailure : t.capture.failure = none)
  | fatal {fault : Fault} (hfault : t.fault? = some fault) (hfatal : fault.isFatal = true)
      (hfailure : t.capture.failure = some fault)

namespace Capture

variable {c : Capture} {device : Device Buffer} {pool : Pool} {enabled : Bool}
  {shape : FrameShape} {t : Tick} {fault : Fault}

theorem Taken.settles (h : Taken c device shape pool t) (hfailure : c.failure = none) :
    t.Settles := by
  cases h with
  | missed => exact .costly rfl rfl hfailure
  | rateless _ _ hfault =>
    subst hfault
    exact .fatal rfl rfl rfl
  | unconverted _ _ hfault =>
    obtain rfl := eq_conversion_of_convertBuffer hfault
    exact .costly rfl rfl hfailure
  | produced => exact .fine rfl hfailure

theorem Ticked.settles (h : Ticked c device pool enabled shape t)
    (hfatal : ∀ fault, c.failure = some fault → fault.isFatal = true) : t.Settles := by
  have hopened : c.opened.failure = c.failure := by
    rw [opened, drain_eq]
    rfl
  cases h with
  | latched hfailure => exact .fatal rfl (hfatal _ hfailure) hfailure
  | disabled hfailure => exact .fine rfl (hopened.trans hfailure)
  | invalid hfailure => exact .costly rfl rfl (hopened.trans hfailure)
  | notWired _ _ _ _ hfault =>
    subst hfault
    exact .fatal rfl rfl rfl
  | taken hfailure _ _ _ htaken => exact htaken.settles (hopened.trans hfailure)

/-- A capture that has failed looks at nothing, and stays as it is. -/
theorem tickWith_of_failure (h : c.failure = some fault) (device : Device Buffer) (pool : Pool)
    (enabled : Bool) (shape : FrameShape) :
    c.tickWith device pool enabled shape =
      { result := .error fault, requests := [], capture := c, pool } := by
  unfold tickWith
  rw [h]

def holding (c : Capture) (ms : List Command) : Capture :=
  { c with commands := { c.commands with waiting := ms } }

end Capture

namespace Talk

/-- What can happen to a capture and its senders. -/
inductive Event
  | tick (device : Device Buffer) (pool : Pool) (enabled : Bool) (shape : FrameShape)
  | trySend (m : Command)
  | send (m : Command)
  /-- The timeout of the sender at a place in the row of those who wait. -/
  | giveUp (place : Nat)

/-- The message that an event brings. -/
def Event.posted : Event → List Command
  | .trySend m => [m]
  | .send m => [m]
  | _ => []

def after (t : Talk) : Event → Talk
  | .tick device pool enabled shape => t.tick device pool enabled shape
  | .trySend m => (t.trySend m).2
  | .send m => t.send m
  | .giveUp i =>
    match t.held[i]? with
    | some m => (t.giveUp i m).2
    | none => t

def tick? (t : Talk) : Event → Option Tick
  | .tick device pool enabled shape => some (t.capture.tickWith device pool enabled shape)
  | _ => none

def run (t : Talk) (es : List Event) : Talk := es.foldl after t

/-- The ticks of a run, each with all it did. -/
def ticks (t : Talk) : List Event → List Tick
  | [] => []
  | e :: es => (t.tick? e).toList ++ (t.after e).ticks es

/-- The faults that the ticks of a run gave, in order. -/
def faults (t : Talk) (es : List Event) : List Fault := (t.ticks es).filterMap Tick.fault?

variable {settings : CaptureSettings} {t : Talk} {fault : Fault}

/-! ## Until a fault is fatal -/

theorem failure_relieve (t : Talk) (ms : List Command) :
    (t.relieve ms).capture.failure = t.capture.failure := by
  induction ms generalizing t with
  | nil => rfl
  | cons m ms ih =>
    rw [relieve, offer_eq]
    cases t.capture.commands.hasRoom with
    | true => exact ih (t.accept m)
    | false => rfl

theorem failure_after (t : Talk) (e : Event) :
    (t.after e).capture.failure =
      ((t.tick? e).map fun tick => tick.capture.failure).getD t.capture.failure := by
  cases e with
  | tick device pool enabled shape => exact failure_relieve _ _
  | trySend m =>
    simp only [after, trySend_eq]
    split <;> rfl
  | send m =>
    simp only [after, send_eq]
    split <;> rfl
  | giveUp i =>
    simp only [after]
    split
    · unfold giveUp Capture.postUnrelieved
      cases t.capture.commands.post _ <;> rfl
    · rfl

/-- A latched fault is fatal; nothing else is assumed of a state. -/
def LatchesFatal (t : Talk) : Prop :=
  ∀ fault, t.capture.failure = some fault → fault.isFatal = true

theorem LatchesFatal.settles (h : t.LatchesFatal) {e : Event} {tick : Tick}
    (htick : t.tick? e = some tick) : tick.Settles := by
  cases e with
  | tick device pool enabled shape =>
    cases htick
    exact (Capture.ticked_tickWith t.capture device pool enabled shape).settles h
  | trySend => cases htick
  | send => cases htick
  | giveUp => cases htick

theorem LatchesFatal.after (h : t.LatchesFatal) (e : Event) : (t.after e).LatchesFatal := by
  intro fault hfault
  rw [failure_after] at hfault
  cases htick : t.tick? e with
  | none =>
    rw [htick] at hfault
    exact h fault hfault
  | some tick =>
    rw [htick] at hfault
    cases h.settles htick with
    | fine _ hfailure => simp [hfailure] at hfault
    | costly _ _ hfailure => simp [hfailure] at hfault
    | fatal _ hfatal hfailure =>
      simp only [hfailure, Option.map_some, Option.getD_some, Option.some.injEq] at hfault
      exact hfault ▸ hfatal

theorem LatchesFatal.settles_of_mem_ticks (h : t.LatchesFatal) (es : List Event) :
    ∀ tick ∈ t.ticks es, tick.Settles := by
  induction es generalizing t with
  | nil => simp [ticks]
  | cons e es ih =>
    intro tick hmem
    rw [ticks, List.mem_append, Option.mem_toList] at hmem
    rcases hmem with htick | hrest
    · exact h.settles htick
    · exact ih (h.after e) tick hrest

/-- The failure of a run is the one it started from, or else its first fatal fault. -/
theorem LatchesFatal.failure_run (h : t.LatchesFatal) (es : List Event) :
    (t.run es).capture.failure =
      t.capture.failure.or ((t.faults es).find? Fault.isFatal) := by
  induction es generalizing t with
  | nil => simp [run, faults, ticks]
  | cons e es ih =>
    have hrun : t.run (e :: es) = (t.after e).run es := rfl
    have hfaults : t.faults (e :: es) =
        ((t.tick? e).bind Tick.fault?).toList ++ (t.after e).faults es := by
      rw [faults, ticks, List.filterMap_append]
      cases t.tick? e with
      | none => rfl
      | some tick => cases hfault : tick.fault? <;> simp [hfault, faults]
    rw [hrun, ih (h.after e), failure_after, hfaults]
    cases htick : t.tick? e with
    | none => simp
    | some tick =>
      cases hfailure : t.capture.failure with
      | some fault =>
        have hkept : tick.capture.failure = some fault := by
          cases e with
          | tick device pool enabled shape =>
            cases htick
            rw [Capture.tickWith_of_failure hfailure]
            exact hfailure
          | trySend => cases htick
          | send => cases htick
          | giveUp => cases htick
        simp [hkept]
      | none =>
        cases h.settles htick with
        | fine hfault hsettled => simp [hfault, hsettled]
        | costly hfault hcosts hsettled =>
          simp [hfault, hsettled, Fault.isFatal_of_costsTick hcosts]
        | fatal hfault hfatal hsettled => simp [hfault, hsettled, hfatal]

/-! ## After it -/

/-- A capture that has failed, with senders that wait only while its queue is full. -/
structure Failed (t : Talk) (fault : Fault) : Prop where
  failure : t.capture.failure = some fault
  room : t.capture.commands.waiting.length ≤ t.capture.commands.depth
  full : t.held ≠ [] → t.capture.commands.waiting.length = t.capture.commands.depth

theorem Failed.hasRoom_eq_false (h : t.Failed fault) (hheld : t.held ≠ []) :
    t.capture.commands.hasRoom = false := by
  simp [CommandQueue.hasRoom, h.full hheld]

theorem Failed.accept (h : t.Failed fault) (m : Command)
    (hroom : t.capture.commands.hasRoom = true) : (t.accept m).Failed fault := by
  have hlt : t.capture.commands.waiting.length < t.capture.commands.depth := by
    simpa [CommandQueue.hasRoom] using hroom
  refine ⟨h.failure, ?_, fun hheld => absurd (h.full hheld) (Nat.ne_of_lt hlt)⟩
  simp only [Talk.accept, List.length_append, List.length_singleton]
  omega

/-- Waiting as long as the queue is full. -/
theorem Failed.hold (h : t.Failed fault) {held : List Command}
    (hfull : t.capture.commands.hasRoom = false) : Failed { t with held } fault := by
  have hge : t.capture.commands.depth ≤ t.capture.commands.waiting.length := by
    simpa [CommandQueue.hasRoom] using hfull
  exact ⟨h.failure, h.room, fun _ => Nat.le_antisymm h.room hge⟩

/-- The queue of a failed capture after more messages have come. -/
def leftOf (t : Talk) (ms : List Command) : Capture :=
  t.capture.holding (t.capture.commands.waiting ++
    ms.take (t.capture.commands.depth - t.capture.commands.waiting.length))

theorem leftOf_nil (t : Talk) : t.leftOf [] = t.capture := by
  simp [leftOf, Capture.holding]

theorem leftOf_singleton (h : t.capture.commands.hasRoom = true) (m : Command) :
    t.leftOf [m] = (t.accept m).capture := by
  have hlt : t.capture.commands.waiting.length < t.capture.commands.depth := by
    simpa [CommandQueue.hasRoom] using h
  have htake : [m].take (t.capture.commands.depth - t.capture.commands.waiting.length) = [m] :=
    List.take_of_length_le (by simp only [List.length_singleton]; omega)
  rw [leftOf, htake]
  rfl

theorem leftOf_of_full (h : t.capture.commands.hasRoom = false) (ms : List Command) :
    t.leftOf ms = t.capture := by
  have hge : t.capture.commands.depth ≤ t.capture.commands.waiting.length := by
    simpa [CommandQueue.hasRoom] using h
  simp [leftOf, Nat.sub_eq_zero_of_le hge, Capture.holding]

theorem leftOf_append {t' : Talk} {ms : List Command} (h : t'.capture = t.leftOf ms)
    (ns : List Command) : t'.leftOf ns = t.leftOf (ms ++ ns) := by
  simp only [leftOf, h, Capture.holding, List.length_append, List.length_take,
    List.append_assoc, List.take_append]
  congr 5
  omega

theorem Failed.tick (h : t.Failed fault) (device : Device Buffer) (pool : Pool) (enabled : Bool)
    (shape : FrameShape) :
    (t.tick device pool enabled shape).Failed fault ∧
      (t.tick device pool enabled shape).capture = t.capture := by
  unfold Talk.tick
  rw [Capture.tickWith_of_failure h.failure]
  cases hheld : t.held with
  | nil => exact ⟨⟨h.failure, h.room, fun hne => absurd rfl hne⟩, rfl⟩
  | cons m ms =>
    have hfull := h.hasRoom_eq_false (hheld ▸ List.cons_ne_nil m ms)
    simp only [relieve, offer_eq, hfull, Bool.false_eq_true, if_false, and_true]
    exact ⟨h.failure, h.room, fun _ => h.full (hheld ▸ List.cons_ne_nil m ms)⟩

theorem Failed.after (h : t.Failed fault) (e : Event) :
    (t.after e).Failed fault ∧ (t.after e).capture = t.leftOf e.posted := by
  cases e with
  | tick device pool enabled shape =>
    obtain ⟨hfailed, hcapture⟩ := h.tick device pool enabled shape
    exact ⟨hfailed, hcapture.trans t.leftOf_nil.symm⟩
  | trySend m =>
    simp only [Talk.after, trySend_eq, Event.posted]
    cases hroom : t.capture.commands.hasRoom with
    | true => exact ⟨h.accept m hroom, (leftOf_singleton hroom m).symm⟩
    | false => exact ⟨h, (leftOf_of_full hroom _).symm⟩
  | send m =>
    simp only [Talk.after, send_eq, Event.posted]
    cases hroom : t.capture.commands.hasRoom with
    | true => exact ⟨h.accept m hroom, (leftOf_singleton hroom m).symm⟩
    | false => exact ⟨h.hold hroom, (leftOf_of_full hroom _).symm⟩
  | giveUp i =>
    simp only [Talk.after, Event.posted, leftOf_nil]
    cases hm : t.held[i]? with
    | none => exact ⟨h, rfl⟩
    | some m =>
      have hfull := h.hasRoom_eq_false (List.ne_nil_of_mem (List.mem_of_getElem? hm))
      simp only [giveUp_eq t i m hfull, and_true]
      exact h.hold hfull

theorem Failed.run (h : t.Failed fault) (es : List Event) :
    (t.run es).Failed fault ∧ (t.run es).capture = t.leftOf (es.flatMap Event.posted) := by
  induction es generalizing t with
  | nil => exact ⟨h, t.leftOf_nil.symm⟩
  | cons e es ih =>
    obtain ⟨hfailed, hcapture⟩ := h.after e
    obtain ⟨hrun, hleft⟩ := ih hfailed
    rw [leftOf_append hcapture] at hleft
    exact ⟨hrun, hleft⟩

/-- What is asked of a failed capture afterwards. -/
structure Frozen (depth : Nat) (t : Talk) (fault : Fault) (later : List Event) : Prop where
  tick_eq : ∀ device pool enabled shape,
    (t.run later).capture.tickWith device pool enabled shape =
      { result := .error fault, requests := [], capture := (t.run later).capture, pool }
  capture_eq : (t.run later).capture =
    t.capture.holding (t.capture.commands.waiting ++
      (later.flatMap Event.posted).take (depth - t.capture.commands.waiting.length))
  trySend_eq : ∀ m, (t.run later).trySend m =
    if t.capture.commands.waiting.length + (later.flatMap Event.posted).length < depth then
      (.ok (), (t.run later).accept m)
    else (.error .queueFull, t.run later)

theorem Failed.frozen (h : t.Failed fault) (later : List Event) :
    t.Frozen t.capture.commands.depth fault later := by
  obtain ⟨hrun, hcapture⟩ := h.run later
  have hroom : (t.run later).capture.commands.hasRoom =
      decide (t.capture.commands.waiting.length + (later.flatMap Event.posted).length <
        t.capture.commands.depth) := by
    have hle := h.room
    rw [hcapture, Bool.eq_iff_iff]
    simp only [CommandQueue.hasRoom, leftOf, Capture.holding, List.length_append,
      List.length_take, decide_eq_true_eq]
    omega
  refine ⟨Capture.tickWith_of_failure hrun.failure, hcapture, fun m => ?_⟩
  simp only [Talk.trySend_eq, hroom, decide_eq_true_eq]

/-! ## Whole runs -/

theorem Told.after (h : t.Told settings) (hfailure : t.capture.failure = none) (e : Event) :
    (t.after e).Told settings := by
  cases e with
  | tick device pool enabled shape => exact h.tick device pool enabled shape hfailure
  | trySend m => exact h.trySend m
  | send m => exact h.send m
  | giveUp i =>
    simp only [Talk.after]
    split
    · rename_i hm
      exact h.giveUp hm
    · exact h

theorem Told.failed (h : t.Told settings) (hfailure : t.capture.failure = some fault) :
    t.Failed fault := by
  refine ⟨hfailure, ?_, ?_⟩
  · rw [h.waiting, h.depth]
    exact h.room
  · rw [h.waiting, h.depth]
    exact h.full

theorem Told.failed_run (h : t.Told settings) (hnew : t.capture.failure = none)
    (es : List Event) (hfailure : (t.run es).capture.failure = some fault) :
    (t.run es).Failed fault ∧
      (t.run es).capture.commands.depth = settings.queueDepth.toNat := by
  induction es generalizing t with
  | nil =>
    rw [run, List.foldl_nil, hnew] at hfailure
    cases hfailure
  | cons e es ih =>
    have htold := h.after hnew e
    cases hnext : (t.after e).capture.failure with
    | none => exact ih htold hnext hfailure
    | some latched =>
      -- the fault that is latched here is still there at the end
      obtain ⟨hfailed, hcapture⟩ := (htold.failed hnext).run es
      have hrun : t.run (e :: es) = (t.after e).run es := rfl
      rw [hrun] at hfailure ⊢
      obtain rfl : latched = fault :=
        Option.some.inj (hfailed.failure.symm.trans hfailure)
      refine ⟨hfailed, ?_⟩
      rw [hcapture]
      exact htold.depth

end Talk

theorem Capture.failure_ofSettings {name : String} {d : DeviceId} {wired : Bool}
    {settings : CaptureSettings} {c : Capture} (h : ofSettings name d wired settings = .ok c) :
    c.failure = none := by
  unfold ofSettings at h
  split at h
  · cases h
  · cases h
    rfl

open Talk in
/--
In every run a capture has failed with the first fatal fault of its ticks, if there was one. A
fault that is not fatal costs its tick: no frame, no conversion, or wrong parameters. From then
on, whatever happens, each tick gives that fault, asks nothing of the device and leaves all as it
was; the queue takes the messages that still find room in it and refuses all others.
-/
theorem failure_latches {name : String} {d : DeviceId} {wired : Bool}
    {settings : CaptureSettings} {c : Capture}
    (hc : Capture.ofSettings name d wired settings = .ok c) (es : List Event) :
    (run { capture := c } es).capture.failure =
      (faults { capture := c } es).find? Fault.isFatal ∧
    (∀ tick ∈ ticks { capture := c } es, ∀ fault, tick.fault? = some fault →
      fault.costsTick = true ∧ tick.capture.failure = none ∨
      fault.isFatal = true ∧ tick.capture.failure = some fault) ∧
    ∀ fault, (run { capture := c } es).capture.failure = some fault → ∀ later,
      (run { capture := c } es).Frozen settings.queueDepth.toNat fault later := by
  have hnew := Capture.failure_ofSettings hc
  have hlatches : LatchesFatal { capture := c } := by
    intro fault hfault
    rw [hnew] at hfault
    cases hfault
  refine ⟨?_, ?_, ?_⟩
  · rw [hlatches.failure_run, hnew, Option.none_or]
  · intro tick hmem fault hfault
    cases hlatches.settles_of_mem_ticks es tick hmem with
    | fine hnone =>
      rw [hnone] at hfault
      cases hfault
    | costly hsome hcosts hfailure =>
      obtain rfl := Option.some.inj (hsome.symm.trans hfault)
      exact .inl ⟨hcosts, hfailure⟩
    | fatal hsome hfatal hfailure =>
      obtain rfl := Option.some.inj (hsome.symm.trans hfault)
      exact .inr ⟨hfatal, hfailure⟩
  · intro fault hfailure later
    obtain ⟨hfailed, hdepth⟩ := (told_start hc).failed_run hnew es hfailure
    rw [← hdepth]
    exact hfailed.frozen later

open Talk in
/-- A device without a rate fails a capture for good; a rate that comes later does not help. -/
theorem failure_latches_rateless :
    ∃ t : Talk, t.capture.failure = some (.rateUnavailable ⟨1⟩ "mic") ∧
      t.capture.counters.dropped = 1 ∧ t.capture.commands.waiting = [] ∧
      ∀ later, t.Frozen 2 (.rateUnavailable ⟨1⟩ "mic") later := by
  let store : FrameStore Buffer :=
    { capacity := 1
      tracks := [(⟨1⟩, { name := "mic", sampleRate := none, frames := [(0, ⟨0⟩)] })] }
  let start : Capture :=
    { name := "mic", deviceId := ⟨1⟩, wired := true, settings := { queueDepth := 2 }
      clock := { interval := 10, maxSteps := 64 }, converter := ⟨8000, 8000⟩
      commands := { depth := 2 } }
  let first : List Event := [.trySend .enable, .tick store.device .empty true ⟨80, 8000⟩]
  have hstart : Capture.ofSettings "mic" ⟨1⟩ true { queueDepth := 2 } = .ok start := rfl
  obtain ⟨-, -, hfrozen⟩ := failure_latches hstart first
  exact ⟨run { capture := start } first, rfl, rfl, rfl, hfrozen _ rfl⟩

end MediaSession
