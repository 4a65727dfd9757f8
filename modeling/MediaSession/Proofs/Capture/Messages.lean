import MediaSession.Device.FrameStore
import MediaSession.Proofs.Capture.Ticks

/-!
# MediaSession.Proofs.Capture.Messages

Senders that share the control queue of a capture, in any interleaving with its ticks.

* `Talk`: a capture with the messages that wait for room, and all that were accepted so far
* `Talk.trySend`, `Talk.send`, `Talk.giveUp`, `Talk.tick`: what can happen to it
* `Talk.Told`: the invariant; the queue holds what was accepted since the last tick, and gain and
  switch are those of the last message before it
* `messages_take_effect`: which messages are accepted, and what they do to the next tick
-/

namespace MediaSession

open Command

structure Talk where
  capture : Capture
  /-- Messages whose senders wait for room, in the order in which they came. -/
  held : List Command := []
  /-- All messages accepted before the last tick. -/
  before : List Command := []
  /-- Those accepted since. -/
  since : List Command := []

namespace Talk

def offer (t : Talk) (m : Command) : Except Fault Talk :=
  (t.capture.post m).map fun c => { t with capture := c, since := t.since ++ [m] }

def trySend (t : Talk) (m : Command) : Except Fault Unit × Talk :=
  match t.offer m with
  | .ok t' => (.ok (), t')
  | .error fault => (.error fault, t)

/-- Whoever finds no room waits behind those who came before. -/
def send (t : Talk) (m : Command) : Talk :=
  match t.offer m with
  | .ok t' => t'
  | .error _ => { t with held := t.held ++ [m] }

/-- The timeout of a sender that waits. -/
def giveUp (t : Talk) (i : Nat) (m : Command) : Except Fault Unit × Talk :=
  match t.capture.postUnrelieved m with
  | .ok c => (.ok (), { t with capture := c, held := t.held.eraseIdx i, since := t.since ++ [m] })
  | .error fault => (.error fault, { t with held := t.held.eraseIdx i })

/-- Those who wait go on as far as there is room. -/
def relieve (t : Talk) : List Command → Talk
  | [] => t
  | m :: ms =>
    match t.offer m with
    | .ok t' => t'.relieve ms
    | .error _ => { t with held := m :: ms }

def tick (t : Talk) (device : Device Buffer) (pool : Pool) (enabled : Bool)
    (shape : FrameShape) : Talk :=
  let c := (t.capture.tickWith device pool enabled shape).capture
  relieve { capture := c, before := t.before ++ t.since } t.held

/-- Every run of a new capture, with ticks as long as it has not failed for good. -/
inductive Reachable (settings : CaptureSettings) : Talk → Prop where
  | start {name : String} {d : DeviceId} {wired : Bool} {c : Capture}
      (hc : Capture.ofSettings name d wired settings = .ok c) : Reachable settings { capture := c }
  | trySend {t : Talk} (ht : Reachable settings t) (m : Command) :
      Reachable settings (t.trySend m).2
  | send {t : Talk} (ht : Reachable settings t) (m : Command) : Reachable settings (t.send m)
  | giveUp {t : Talk} (ht : Reachable settings t) {i : Nat} {m : Command}
      (hheld : t.held[i]? = some m) : Reachable settings (t.giveUp i m).2
  | tick {t : Talk} (ht : Reachable settings t) (hfailure : t.capture.failure = none)
      (device : Device Buffer) (pool : Pool) (enabled : Bool) (shape : FrameShape) :
      Reachable settings (t.tick device pool enabled shape)

/-- A message goes in at the back. -/
def accept (t : Talk) (m : Command) : Talk :=
  { t with
    capture :=
      { t.capture with
        commands := { t.capture.commands with waiting := t.capture.commands.waiting ++ [m] } }
    since := t.since ++ [m] }

structure Told (settings : CaptureSettings) (t : Talk) : Prop where
  kept : t.capture.settings = settings
  depth : t.capture.commands.depth = settings.queueDepth.toNat
  waiting : t.capture.commands.waiting = t.since
  room : t.since.length ≤ settings.queueDepth.toNat
  /-- Nobody waits while there is room. -/
  full : t.held ≠ [] → t.since.length = settings.queueDepth.toNat
  gain : t.capture.amplifier.gain = (lastGain? t.before).getD Gain.unity
  enabled : t.capture.enabled = (lastSwitch? t.before).getD true

variable {settings : CaptureSettings} {t : Talk}

/-! ## Sending -/

theorem offer_eq (t : Talk) (m : Command) :
    t.offer m =
      if t.capture.commands.hasRoom then .ok (t.accept m) else .error .queueFull := by
  unfold offer Capture.post CommandQueue.post
  cases t.capture.commands.hasRoom <;> rfl

theorem trySend_eq (t : Talk) (m : Command) :
    t.trySend m =
      if t.capture.commands.hasRoom then (.ok (), t.accept m) else (.error .queueFull, t) := by
  rw [trySend, offer_eq]
  cases t.capture.commands.hasRoom <;> rfl

theorem send_eq (t : Talk) (m : Command) :
    t.send m =
      if t.capture.commands.hasRoom then t.accept m else { t with held := t.held ++ [m] } := by
  rw [send, offer_eq]
  cases t.capture.commands.hasRoom <;> rfl

theorem giveUp_eq (t : Talk) (i : Nat) (m : Command)
    (hfull : t.capture.commands.hasRoom = false) :
    t.giveUp i m = (.error (.queueTimeout t.capture.settings.sendTimeout),
      { t with held := t.held.eraseIdx i }) := by
  simp [giveUp, Capture.postUnrelieved, CommandQueue.post, hfull]

theorem Told.hasRoom (h : t.Told settings) :
    t.capture.commands.hasRoom = decide (t.since.length < settings.queueDepth.toNat) := by
  rw [CommandQueue.hasRoom, h.waiting, h.depth]

theorem Told.offer_eq (h : t.Told settings) (m : Command) :
    t.offer m = if t.since.length < settings.queueDepth.toNat then .ok (t.accept m)
      else .error .queueFull := by
  simp only [Talk.offer_eq, h.hasRoom, decide_eq_true_eq]

theorem Told.trySend_eq (h : t.Told settings) (m : Command) :
    t.trySend m = if t.since.length < settings.queueDepth.toNat then (.ok (), t.accept m)
      else (.error .queueFull, t) := by
  simp only [Talk.trySend_eq, h.hasRoom, decide_eq_true_eq]

theorem Told.send_eq (h : t.Told settings) (m : Command) :
    t.send m = if t.since.length < settings.queueDepth.toNat then t.accept m
      else { t with held := t.held ++ [m] } := by
  simp only [Talk.send_eq, h.hasRoom, decide_eq_true_eq]

theorem Told.giveUp_eq (h : t.Told settings) {i : Nat} {m : Command} (hm : t.held[i]? = some m) :
    t.giveUp i m = (.error (.queueTimeout settings.sendTimeout),
      { t with held := t.held.eraseIdx i }) := by
  -- a sender that waits does so because the queue is full, and it is full still
  have hne : t.held ≠ [] := List.ne_nil_of_mem (List.mem_of_getElem? hm)
  have hroom : t.capture.commands.hasRoom = false := by
    rw [h.hasRoom, h.full hne]
    exact decide_eq_false (Nat.lt_irrefl _)
  rw [Talk.giveUp_eq t i m hroom, h.kept]

theorem Told.accept (h : t.Told settings) (m : Command)
    (hroom : t.since.length < settings.queueDepth.toNat) : (t.accept m).Told settings where
  kept := h.kept
  depth := h.depth
  waiting := congrArg (· ++ [m]) h.waiting
  room := by
    rw [Talk.accept, List.length_append]
    exact hroom
  full := fun hheld => absurd (h.full hheld) (Nat.ne_of_lt hroom)
  gain := h.gain
  enabled := h.enabled

theorem Told.trySend (h : t.Told settings) (m : Command) : (t.trySend m).2.Told settings := by
  rw [h.trySend_eq]
  split
  · rename_i hroom
    exact h.accept m hroom
  · exact h

theorem Told.send (h : t.Told settings) (m : Command) : (t.send m).Told settings := by
  rw [h.send_eq]
  split
  · rename_i hroom
    exact h.accept m hroom
  · rename_i hfull
    exact { h with full := fun _ => Nat.le_antisymm h.room (Nat.le_of_not_lt hfull) }

theorem Told.giveUp (h : t.Told settings) {i : Nat} {m : Command} (hm : t.held[i]? = some m) :
    (t.giveUp i m).2.Told settings := by
  have hne : t.held ≠ [] := List.ne_nil_of_mem (List.mem_of_getElem? hm)
  rw [h.giveUp_eq hm]
  exact { h with full := fun _ => h.full hne }

/-! ## A tick -/

/-- Relief keeps the order, and touches nothing but the queue. -/
theorem Told.relieve (h : t.Told settings) (hheld : t.held = []) (ms : List Command) :
    (t.relieve ms).Told settings ∧ (t.relieve ms).since ++ (t.relieve ms).held = t.since ++ ms ∧
      (t.relieve ms).before = t.before ∧
      (t.relieve ms).capture.amplifier = t.capture.amplifier ∧
      (t.relieve ms).capture.enabled = t.capture.enabled := by
  induction ms generalizing t with
  | nil =>
    refine ⟨h, ?_, rfl, rfl, rfl⟩
    rw [Talk.relieve, hheld]
  | cons m ms ih =>
    by_cases hroom : t.since.length < settings.queueDepth.toNat
    · rw [Talk.relieve, h.offer_eq, if_pos hroom]
      obtain ⟨htold, hsince, hrest⟩ := ih (h.accept m hroom) hheld
      refine ⟨htold, ?_, hrest⟩
      rw [hsince, Talk.accept, List.append_assoc, List.singleton_append]
    · rw [Talk.relieve, h.offer_eq, if_neg hroom]
      have hfull := Nat.le_antisymm h.room (Nat.le_of_not_lt hroom)
      exact ⟨{ h with full := fun _ => hfull }, rfl, rfl, rfl, rfl⟩

end Talk

namespace Capture

variable {c : Capture} {device : Device Buffer} {pool : Pool} {enabled : Bool}
  {shape : FrameShape} {t : Tick}

theorem gain_apply (a : Amplifier) (pool : Pool) (b : Buffer) (frameLength : Nat) :
    (a.apply pool b frameLength).2.1.gain = a.gain := by
  unfold Amplifier.apply Amplifier.scale
  split <;> rfl

/-- What a tick leaves that its messages determine. -/
structure Heeds (c c' : Capture) : Prop where
  settings : c'.settings = c.settings
  commands : c'.commands = c.commands
  gain : c'.amplifier.gain = c.amplifier.gain
  enabled : c'.enabled = c.enabled

theorem Ticked.heeds (h : Ticked c device pool enabled shape t) (hfailure : c.failure = none) :
    c.drain.Heeds t.capture := by
  cases h with
  | latched hlatched =>
    rw [hfailure] at hlatched
    cases hlatched
  | disabled => exact ⟨rfl, rfl, rfl, rfl⟩
  | invalid => exact ⟨rfl, rfl, rfl, rfl⟩
  | notWired => exact ⟨rfl, rfl, rfl, rfl⟩
  | taken _ _ _ _ htaken =>
    cases htaken with
    | missed => exact ⟨rfl, rfl, rfl, rfl⟩
    | rateless => exact ⟨rfl, rfl, rfl, rfl⟩
    | unconverted => exact ⟨rfl, rfl, rfl, rfl⟩
    | produced => exact ⟨rfl, rfl, gain_apply _ _ _ _, rfl⟩

theorem Ticked.result_eq_disabled_iff (h : Ticked c device pool enabled shape t)
    (hfailure : c.failure = none) :
    t.result = .ok .disabled ↔ (enabled && c.drain.enabled) = false := by
  cases h with
  | latched hlatched =>
    rw [hfailure] at hlatched
    cases hlatched
  | disabled _ hoff => simp [hoff]
  | invalid _ hon => simp [hon]
  | notWired _ hon => simp [hon]
  | taken _ hon _ _ htaken => cases htaken <;> simp [hon]

theorem Ticked.produced_eq (h : Ticked c device pool enabled shape t) {frame : Buffer}
    (hproduced : t.result = .ok (.produced frame)) :
    ∃ pool' out, frame = (c.drain.amplifier.apply pool' out shape.samples.toNat).1 := by
  cases h with
  | latched => cases hproduced
  | disabled => cases hproduced
  | invalid => cases hproduced
  | notWired => cases hproduced
  | taken _ _ _ _ htaken =>
    cases htaken with
    | missed => cases hproduced
    | rateless => cases hproduced
    | unconverted => cases hproduced
    | produced =>
      cases hproduced
      exact ⟨_, _, rfl⟩

/-- What a tick does depends on the messages through the gain and the switch alone. -/
theorem tickWith_governed (hfailure : c.failure = none) {gain : Gain} {on : Bool}
    (hdrain : c.drain = c.governed gain on) :
    c.tickWith device pool enabled shape =
      (c.governed gain on).tickWith device pool enabled shape := by
  have hgoverned : (c.governed gain on).drain = c.governed gain on := by
    rw [drain_eq]
    rfl
  have hsame : (c.governed gain on).failure = none := hfailure
  unfold tickWith
  rw [hfailure, hsame, hgoverned, hdrain]

end Capture

namespace Talk

variable {settings : CaptureSettings} {t : Talk}

theorem Told.drain_eq (h : t.Told settings) :
    t.capture.drain = t.capture.governed ((lastGain? (t.before ++ t.since)).getD Gain.unity)
      ((lastSwitch? (t.before ++ t.since)).getD true) := by
  rw [Capture.drain_eq, h.waiting, h.gain, h.enabled, lastGain?_append, lastSwitch?_append,
    Option.getD_or, Option.getD_or]

/-- A tick that goes by this gain and this switch, and takes up all that was accepted. -/
structure Obeys (t : Talk) (gain : Gain) (on : Bool) (device : Device Buffer) (pool : Pool)
    (enabled : Bool) (shape : FrameShape) : Prop where
  gain_eq : (t.tick device pool enabled shape).capture.amplifier.gain = gain
  enabled_eq : (t.tick device pool enabled shape).capture.enabled = on
  before_eq : (t.tick device pool enabled shape).before = t.before ++ t.since
  /-- Whoever waited is in the queue now, or waits still, in the old order. -/
  held_eq : (t.tick device pool enabled shape).since ++ (t.tick device pool enabled shape).held =
    t.held
  governed : t.capture.tickWith device pool enabled shape =
    (t.capture.governed gain on).tickWith device pool enabled shape
  disabled_iff : (t.capture.tickWith device pool enabled shape).result = .ok .disabled ↔
    (enabled && on) = false
  produced : ∀ frame,
    (t.capture.tickWith device pool enabled shape).result = .ok (.produced frame) →
      ∃ pool' out,
        frame = ((t.capture.amplifier.withGain gain).apply pool' out shape.samples.toNat).1

section Tick

variable (device : Device Buffer) (pool : Pool) (enabled : Bool) (shape : FrameShape)

/-- The state after a tick and before those who wait go on. -/
theorem Told.heard (h : t.Told settings) (hfailure : t.capture.failure = none) :
    Told settings
      { capture := (t.capture.tickWith device pool enabled shape).capture
        before := t.before ++ t.since } := by
  have hheeds :=
    (Capture.ticked_tickWith t.capture device pool enabled shape).heeds hfailure
  have hdrain := h.drain_eq
  refine ⟨?_, ?_, ?_, Nat.zero_le _, fun hheld => absurd rfl hheld, ?_, ?_⟩
  · rw [hheeds.settings, hdrain]
    exact h.kept
  · rw [hheeds.commands, hdrain]
    exact h.depth
  · rw [hheeds.commands, hdrain]
    rfl
  · rw [hheeds.gain, hdrain]
    rfl
  · rw [hheeds.enabled, hdrain]
    rfl

theorem Told.tick (h : t.Told settings) (hfailure : t.capture.failure = none) :
    (t.tick device pool enabled shape).Told settings :=
  ((h.heard device pool enabled shape hfailure).relieve rfl t.held).1

theorem Told.obeys (h : t.Told settings) (hfailure : t.capture.failure = none) :
    t.Obeys ((lastGain? (t.before ++ t.since)).getD Gain.unity)
      ((lastSwitch? (t.before ++ t.since)).getD true) device pool enabled shape := by
  have hheard := h.heard device pool enabled shape hfailure
  obtain ⟨-, hsince, hbefore, hamplifier, henabled⟩ := hheard.relieve rfl t.held
  have hticked := Capture.ticked_tickWith t.capture device pool enabled shape
  have hdrain := h.drain_eq
  refine ⟨?_, ?_, hbefore, hsince, Capture.tickWith_governed hfailure hdrain, ?_, ?_⟩
  · exact (congrArg Amplifier.gain hamplifier).trans hheard.gain
  · exact henabled.trans hheard.enabled
  · rw [hticked.result_eq_disabled_iff hfailure, hdrain]
    rfl
  · intro frame hproduced
    have hframe := hticked.produced_eq hproduced
    rwa [hdrain] at hframe

end Tick

/-! ## Runs -/

theorem told_start {name : String} {d : DeviceId} {wired : Bool} {c : Capture}
    (hc : Capture.ofSettings name d wired settings = .ok c) :
    Told settings { capture := c } := by
  unfold Capture.ofSettings at hc
  split at hc
  · cases hc
  · cases hc
    exact ⟨rfl, rfl, rfl, Nat.zero_le _, fun hheld => absurd rfl hheld, rfl, rfl⟩

theorem reachable_told (h : t.Reachable settings) : t.Told settings := by
  induction h with
  | start hc => exact told_start hc
  | trySend _ m ih => exact ih.trySend m
  | send _ m ih => exact ih.send m
  | giveUp _ hheld ih => exact ih.giveUp hheld
  | tick _ hfailure device pool enabled shape ih => exact ih.tick device pool enabled shape hfailure

end Talk

/--
In every interleaving of senders and ticks a message is accepted just when fewer than the queue
holds were accepted since the last tick; one that is refused, at once or after its sender has
waited, leaves everything as it was. What was accepted waits in its order for the next tick, which
takes up all of it: whatever its parameters and its result are, it goes by the gain and the switch
of the last messages about them, and leaves them in force.
-/
theorem messages_take_effect {settings : CaptureSettings} {t : Talk}
    (h : t.Reachable settings) :
    (∀ m, t.trySend m =
      if t.since.length < settings.queueDepth.toNat then (.ok (), t.accept m)
      else (.error .queueFull, t)) ∧
    (∀ m, t.send m =
      if t.since.length < settings.queueDepth.toNat then t.accept m
      else { t with held := t.held ++ [m] }) ∧
    (∀ i m, t.held[i]? = some m → t.giveUp i m =
      (.error (.queueTimeout settings.sendTimeout), { t with held := t.held.eraseIdx i })) ∧
    t.capture.commands.waiting = t.since ∧
    (t.capture.failure = none → ∀ device pool enabled shape,
      t.Obeys ((lastGain? (t.before ++ t.since)).getD Gain.unity)
        ((lastSwitch? (t.before ++ t.since)).getD true) device pool enabled shape) := by
  have htold := Talk.reachable_told h
  exact ⟨htold.trySend_eq, htold.send_eq, fun _ _ => htold.giveUp_eq, htold.waiting,
    fun hfailure device pool enabled shape => htold.obeys device pool enabled shape hfailure⟩

/-- In a queue of one message a sender waits for a tick, and switches off the tick after it. -/
theorem messages_take_effect_relieved :
    ∃ t : Talk, t.Reachable { queueDepth := 1 } ∧ t.capture.failure = none ∧
      t.before = [.setGain Gain.mute] ∧ t.since = [.disable] ∧
      (t.trySend .enable).1 = .error .queueFull ∧
      t.Obeys Gain.mute false (FrameStore.keeping 1).device .empty true ⟨80, 8000⟩ := by
  let start : Talk :=
    { capture :=
        { name := "mic", deviceId := ⟨1⟩, wired := true, settings := { queueDepth := 1 }
          clock := { interval := 10, maxSteps := 64 }, converter := ⟨8000, 8000⟩
          commands := { depth := 1 } } }
  have hstart : start.Reachable { queueDepth := 1 } := .start (d := ⟨1⟩) rfl
  have hheld := (hstart.trySend (.setGain Gain.mute)).send .disable
  have hrelieved := hheld.tick rfl (FrameStore.keeping 1).device .empty false ⟨80, 8000⟩
  obtain ⟨htry, -, -, -, htick⟩ := messages_take_effect hrelieved
  refine ⟨_, hrelieved, rfl, rfl, rfl, ?_, htick rfl _ _ _ _⟩
  rw [htry]
  rfl

end MediaSession
