import MediaSession.Proofs.Capture.Answers
import MediaSession.Proofs.Capture.Drift

/-!
# MediaSession.Proofs.Capture.Skipping

Two runs of a capture, one of which leaves out ticks that have nothing to do: those that are told
not to work, or are given a shape that no frame has. Such a tick takes up messages and is counted,
so between two ticks that work the runs differ in gain, switch, queue and one counter. It also
makes room for senders that wait, who are then heard earlier than in the other run.

* `Capture.core`, `Capture.rule`: what messages leave of a capture, and what they determine
* `Talk.Leads`: the messages accepted on the way from one state to another change its rule
* `Talk.IdleTick`, `Talk.Entry`: two runs, with the ticks marked that only one of them has
* `Talk.MetAlike`: both have accepted the same messages before each tick that is to work
* `skipped_ticks_invisible`: such ticks do the same, and leave the same
* `skipped_tick_heard_early`: the answers to the senders alone are not enough
-/

namespace MediaSession

/-! ## Captures that differ in their ticks alone -/

namespace Capture

def withTicks (c : Capture) (n : Nat) : Capture :=
  { c with counters := { c.counters with ticks := n } }

variable {c c' : Capture} {device : Device Buffer} {pool : Pool} {enabled : Bool}
  {shape : FrameShape}

theorem drain_withTicks (c : Capture) (n : Nat) : (c.withTicks n).drain = c.drain.withTicks n := by
  rw [drain_eq, drain_eq]
  rfl

theorem setRates_withTicks (c : Capture) (n : Nat) (input output : UInt32) :
    (c.withTicks n).setRates input output = (c.setRates input output).withTicks n := by
  have hsame : (c.withTicks n).converter = c.converter := rfl
  unfold setRates
  rw [hsame]
  dsimp only
  split <;> rfl

theorem process_withTicks (c : Capture) (n : Nat) (device : Device Buffer) (shape : FrameShape)
    (pool : Pool) (frame : Buffer) :
    (c.withTicks n).process device shape pool frame =
      ((c.process device shape pool frame).1, (c.process device shape pool frame).2.1.withTicks n,
        (c.process device shape pool frame).2.2) := by
  have hid : (c.withTicks n).deviceId = c.deviceId := rfl
  unfold process
  rw [hid]
  cases device.sampleRate c.deviceId with
  | none => rfl
  | some rate =>
    have hconverter (k : Capture) : (k.withTicks n).converter = k.converter := rfl
    simp only [setRates_withTicks, hconverter]
    cases (c.setRates rate shape.rate).converter.convertBuffer pool frame <;> rfl

theorem take_withTicks (c : Capture) (n : Nat) (device : Device Buffer) (shape : FrameShape)
    (pool : Pool) :
    (c.withTicks n).take device shape pool =
      { c.take device shape pool with
        capture := (c.take device shape pool).capture.withTicks n } := by
  have hfetch : (c.withTicks n).fetch device shape =
      ((c.fetch device shape).1, (c.fetch device shape).2.withTicks n) := rfl
  unfold take
  simp only [hfetch]
  cases (c.fetch device shape).1.fetch.frame? with
  | none => rfl
  | some frame => simp only [process_withTicks]

theorem opened_withTicks (c : Capture) (n : Nat) :
    (c.withTicks n).opened = c.opened.withTicks (n + 1) := by
  rw [opened, drain_withTicks]
  rfl

theorem tickWith_withTicks (hfailure : c.failure = none) (n : Nat) :
    (c.withTicks n).tickWith device pool enabled shape =
      { c.tickWith device pool enabled shape with
        capture := (c.tickWith device pool enabled shape).capture.withTicks (n + 1) } := by
  have hsame : (c.withTicks n).failure = none := hfailure
  have hopened (k : Capture) :
      (k.drain.count fun n => { n with ticks := n.ticks + 1 }) = k.opened := rfl
  have henabled : (c.opened.withTicks (n + 1)).enabled = c.opened.enabled := rfl
  have hwired : (c.opened.withTicks (n + 1)).wired = c.opened.wired := rfl
  unfold tickWith
  simp only [hfailure, hsame, hopened, opened_withTicks, henabled, hwired]
  split
  · rfl
  · split
    · rfl
    · split
      · exact take_withTicks _ _ _ _ _
      · rfl

/-- What a tick does is settled once its messages are taken up. -/
theorem tickWith_drain (hfailure : c.failure = none) :
    c.tickWith device pool enabled shape = c.drain.tickWith device pool enabled shape := by
  rw [tickWith_governed hfailure c.drain_eq, ← drain_eq]

/-! ## Core and rule -/

/-- A capture without all that its messages govern, and without the number of its ticks. -/
def core (c : Capture) : Capture := (c.governed Gain.unity true).withTicks 0

/-- The gain and the switch that a tick would go by now. -/
def rule (c : Capture) : Gain × Bool := (c.drain.amplifier.gain, c.drain.enabled)

theorem failure_eq_of_core (h : c.core = c'.core) : c.failure = c'.failure := by
  have hfailure : c.core.failure = c'.core.failure := by rw [h]
  exact hfailure

theorem drain_eq_core (c : Capture) :
    c.drain = (c.core.governed c.rule.1 c.rule.2).withTicks c.counters.ticks := by
  unfold rule
  rw [drain_eq]
  rfl

theorem core_opened (c : Capture) : c.opened.core = c.core := by
  rw [opened, drain_eq]
  rfl

theorem rule_tickWith (c : Capture) (device : Device Buffer) (pool : Pool) (enabled : Bool)
    (shape : FrameShape) : (c.tickWith device pool enabled shape).capture.rule = c.rule := by
  cases hfailure : c.failure with
  | some fault => rw [tickWith_of_failure hfailure]
  | none =>
    have hheeds := (ticked_tickWith c device pool enabled shape).heeds hfailure
    generalize (c.tickWith device pool enabled shape).capture = c' at hheeds
    have hempty : c'.commands.waiting = [] := by
      rw [hheeds.commands, drain_eq]
      rfl
    have hdrain : c'.drain = c'.governed c'.amplifier.gain c'.enabled := by
      rw [drain_eq, hempty]
      rfl
    rw [rule, hdrain]
    exact Prod.ext hheeds.gain hheeds.enabled

end Capture

/-- What others see of a tick: its result, its requests and the samples. -/
def Tick.outcome (t : Tick) : Except Fault TickYield × List FrameTime × Pool :=
  (t.result, t.requests, t.pool)

namespace Capture

variable {c c' : Capture}

theorem tickWith_alike (hcore : c.core = c'.core) (hrule : c.rule = c'.rule)
    (device : Device Buffer) (pool : Pool) (enabled : Bool) (shape : FrameShape) :
    (c.tickWith device pool enabled shape).outcome =
        (c'.tickWith device pool enabled shape).outcome ∧
      (c.tickWith device pool enabled shape).capture.core =
        (c'.tickWith device pool enabled shape).capture.core := by
  have hsame := failure_eq_of_core hcore
  cases hfailure : c'.failure with
  | some fault =>
    rw [hfailure] at hsame
    rw [tickWith_of_failure hsame, tickWith_of_failure hfailure]
    exact ⟨rfl, hcore⟩
  | none =>
    rw [hfailure] at hsame
    have hdrain : c.drain = c'.drain.withTicks c.counters.ticks := by
      rw [drain_eq_core c, drain_eq_core c', hcore, hrule]
      rfl
    have hdrained : c'.drain.failure = none := by
      rw [drain_eq]
      exact hfailure
    rw [tickWith_drain hsame, tickWith_drain hfailure, hdrain, tickWith_withTicks hdrained]
    exact ⟨rfl, rfl⟩

/-- A tick that is told not to work heeds no message. -/
theorem outcome_tickWith_off (hcore : c.core = c'.core) (device : Device Buffer) (pool : Pool)
    (shape : FrameShape) :
    (c.tickWith device pool false shape).outcome =
      (c'.tickWith device pool false shape).outcome := by
  have hsame := failure_eq_of_core hcore
  unfold tickWith
  rw [hsame]
  cases c'.failure <;> rfl

end Capture

namespace Talk

variable {s t t' : Talk}

/-! ## Messages on the way -/

def amend : Gain × Bool → Command → Gain × Bool
  | (_, on), .setGain gain => (gain, on)
  | (gain, _), .enable => (gain, true)
  | (gain, _), .disable => (gain, false)

/-- A message at the end of the queue is the last to be taken up. -/
theorem rule_accept (t : Talk) (m : Command) :
    (t.accept m).capture.rule = amend t.capture.rule m := by
  have hwaiting : (t.accept m).capture.commands.waiting = t.capture.commands.waiting ++ [m] := rfl
  rw [Capture.rule, Capture.rule, Capture.drain_eq, Capture.drain_eq, hwaiting,
    Command.lastGain?_append, Command.lastSwitch?_append]
  cases m <;> rfl

/-- Between two states of a run the rule changes by what is accepted, and by nothing else. -/
def Leads (s t : Talk) : Prop :=
  ∃ ms, t.heard = s.heard ++ ms ∧ t.capture.rule = ms.foldl amend s.capture.rule

theorem Leads.of_eq (hheard : t.heard = s.heard) (hrule : t.capture.rule = s.capture.rule) :
    s.Leads t :=
  ⟨[], by rw [hheard, List.append_nil], hrule⟩

theorem Leads.trans (h : s.Leads t) (h' : t.Leads t') : s.Leads t' := by
  obtain ⟨ms, hheard, hrule⟩ := h
  obtain ⟨ns, hheard', hrule'⟩ := h'
  refine ⟨ms ++ ns, ?_, ?_⟩
  · rw [hheard', hheard, List.append_assoc]
  · rw [hrule', hrule, List.foldl_append]

theorem leads_accept (t : Talk) (m : Command) : t.Leads (t.accept m) :=
  ⟨[m], Roster.heard_accept t m, rule_accept t m⟩

theorem leads_relieve (t : Talk) (ms : List Command) : t.Leads (t.relieve ms) := by
  induction ms generalizing t with
  | nil => exact .of_eq rfl rfl
  | cons m ms ih =>
    rw [relieve, offer_eq]
    cases t.capture.commands.hasRoom with
    | true => exact (leads_accept t m).trans (ih (t.accept m))
    | false => exact .of_eq rfl rfl

theorem leads_after (t : Talk) (e : Event) : t.Leads (t.after e) := by
  cases e with
  | tick device pool enabled shape =>
    refine .trans (.of_eq ?_ ?_) (leads_relieve _ _)
    · exact List.append_nil _
    · exact Capture.rule_tickWith _ _ _ _ _
  | trySend m =>
    simp only [after, trySend_eq]
    cases t.capture.commands.hasRoom with
    | true => exact leads_accept t m
    | false => exact .of_eq rfl rfl
  | send m =>
    simp only [after, send_eq]
    cases t.capture.commands.hasRoom with
    | true => exact leads_accept t m
    | false => exact .of_eq rfl rfl
  | giveUp i =>
    simp only [after]
    cases t.held[i]? with
    | none => exact .of_eq rfl rfl
    | some m =>
      simp only [giveUp, Capture.postUnrelieved, CommandQueue.post]
      cases t.capture.commands.hasRoom with
      | true => exact leads_accept t m
      | false => exact .of_eq rfl rfl

/-- Two states that a run can lead to go by the same rule if they have heard the same. -/
theorem Leads.rule_eq (h : s.Leads t) (h' : s.Leads t') (hheard : t.heard = t'.heard) :
    t.capture.rule = t'.capture.rule := by
  obtain ⟨ms, hms, hrule⟩ := h
  obtain ⟨ns, hns, hrule'⟩ := h'
  rw [hms, hns] at hheard
  rw [hrule, hrule', List.append_cancel_left hheard]

theorem core_relieve (t : Talk) (ms : List Command) :
    (t.relieve ms).capture.core = t.capture.core := by
  induction ms generalizing t with
  | nil => rfl
  | cons m ms ih =>
    rw [relieve, offer_eq]
    cases t.capture.commands.hasRoom with
    | true => exact ih (t.accept m)
    | false => rfl

/-- Senders do not touch the core. -/
theorem core_after (t : Talk) (e : Event) :
    (t.after e).capture.core =
      ((t.tick? e).map fun tick => tick.capture.core).getD t.capture.core := by
  cases e with
  | tick device pool enabled shape => exact core_relieve _ _
  | trySend m =>
    simp only [after, trySend_eq]
    cases t.capture.commands.hasRoom <;> rfl
  | send m =>
    simp only [after, send_eq]
    cases t.capture.commands.hasRoom <;> rfl
  | giveUp i =>
    simp only [after]
    cases t.held[i]? with
    | none => rfl
    | some m =>
      simp only [giveUp, Capture.postUnrelieved, CommandQueue.post]
      cases t.capture.commands.hasRoom <;> rfl

/-! ## Ticks without work -/

/-- A tick that is told not to work, or is given a shape that no frame has. -/
structure IdleTick where
  device : Device Buffer
  pool : Pool
  enabled : Bool
  shape : FrameShape
  idle : enabled = false ∨ shape.fault? ≠ none

def IdleTick.event (i : IdleTick) : Event := .tick i.device i.pool i.enabled i.shape

def IdleTick.tick (i : IdleTick) (c : Capture) : Tick :=
  c.tickWith i.device i.pool i.enabled i.shape

/-- An idle tick asks nothing, and leaves no more than its messages taken up and its count. -/
theorem IdleTick.leaves (i : IdleTick) (c : Capture) :
    (i.tick c).requests = [] ∧ (i.tick c).pool = i.pool ∧ (i.tick c).capture.core = c.core := by
  have hticked := Capture.ticked_tickWith c i.device i.pool i.enabled i.shape
  rw [tick]
  generalize c.tickWith i.device i.pool i.enabled i.shape = t at hticked
  have hworks (hon : (i.enabled && c.drain.enabled) = true) (hshape : i.shape.fault? = none) :
      False := by
    rcases i.idle with hoff | hfault
    · rw [hoff, Bool.false_and] at hon
      cases hon
    · exact hfault hshape
  cases hticked with
  | latched => exact ⟨rfl, rfl, rfl⟩
  | disabled => exact ⟨rfl, rfl, c.core_opened⟩
  | invalid => exact ⟨rfl, rfl, c.core_opened⟩
  | notWired _ hon hshape => exact (hworks hon hshape).elim
  | taken _ hon hshape => exact (hworks hon hshape).elim

/-! ## Two runs at once -/

/--
An event of two runs, or one that only the whole or only the thinned run has: an idle tick that is
left out, and the timeouts of senders, who need not wait as long in one as in the other.
-/
inductive Entry
  | shared (e : Event)
  | skipped (i : IdleTick)
  | lapsedWhole (place : Nat)
  | lapsedThinned (place : Nat)

def Entry.whole? : Entry → Option Event
  | .shared e => some e
  | .skipped i => some i.event
  | .lapsedWhole place => some (.giveUp place)
  | .lapsedThinned _ => none

def Entry.thinned? : Entry → Option Event
  | .shared e => some e
  | .skipped _ => none
  | .lapsedWhole _ => none
  | .lapsedThinned place => some (.giveUp place)

def whole (es : List Entry) : List Event := es.filterMap Entry.whole?

def thinned (es : List Entry) : List Event := es.filterMap Entry.thinned?

def Entry.shared? : Entry → Option Event
  | .shared e => some e
  | _ => none

/-- Whether both runs have this tick, and it is told to work. -/
def Entry.works : Entry → Bool
  | .shared (.tick _ _ enabled _) => enabled
  | _ => false

/-- The ticks of the whole run that the thinned one does not leave out. -/
def sharedTicks (t : Talk) : List Entry → List Tick
  | [] => []
  | e :: es => (e.shared?.bind t.tick?).toList ++ (t.run (whole [e])).sharedTicks es

/-- Before each tick that is to work, both runs have accepted the same messages, in one order. -/
def MetAlike (t t' : Talk) : List Entry → Prop
  | [] => True
  | e :: es =>
    (e.works = true → t.heard = t'.heard) ∧ (t.run (whole [e])).MetAlike (t'.run (thinned [e])) es

theorem run_whole_cons (t : Talk) (e : Entry) (es : List Entry) :
    t.run (whole (e :: es)) = (t.run (whole [e])).run (whole es) := by
  rw [run, whole, ← List.singleton_append, List.filterMap_append, List.foldl_append]
  rfl

theorem run_thinned_cons (t : Talk) (e : Entry) (es : List Entry) :
    t.run (thinned (e :: es)) = (t.run (thinned [e])).run (thinned es) := by
  rw [run, thinned, ← List.singleton_append, List.filterMap_append, List.foldl_append]
  rfl

theorem ticks_thinned_cons (t : Talk) (e : Entry) (es : List Entry) :
    t.ticks (thinned (e :: es)) =
      (e.shared?.bind t.tick?).toList ++ (t.run (thinned [e])).ticks (thinned es) := by
  cases e <;> rfl

/-! ## Whole runs -/

/-- One entry: the cores stay the same, and a tick of both runs has the same outcome. -/
theorem step_alike (hcore : t.capture.core = t'.capture.core) (h : s.Leads t) (h' : s.Leads t')
    {e : Entry} (hmet : e.works = true → t.heard = t'.heard) :
    (e.shared?.bind t.tick?).toList.map Tick.outcome =
        (e.shared?.bind t'.tick?).toList.map Tick.outcome ∧
      (t.run (whole [e])).capture.core = (t'.run (thinned [e])).capture.core := by
  cases e with
  | shared e =>
    have hafter := core_after t e
    have hafter' := core_after t' e
    cases e with
    | tick device pool enabled shape =>
      cases enabled with
      | true =>
        have hrule := h.rule_eq h' (hmet rfl)
        obtain ⟨houtcome, hcores⟩ := Capture.tickWith_alike hcore hrule device pool true shape
        exact ⟨congrArg ([·]) houtcome, hafter.trans (hcores.trans hafter'.symm)⟩
      | false =>
        let off : IdleTick := ⟨device, pool, false, shape, .inl rfl⟩
        have houtcome := Capture.outcome_tickWith_off hcore device pool shape
        have hcores := ((off.leaves t.capture).2.2.trans hcore).trans (off.leaves t'.capture).2.2.symm
        exact ⟨congrArg ([·]) houtcome, hafter.trans (hcores.trans hafter'.symm)⟩
    | trySend => exact ⟨rfl, hafter.trans (hcore.trans hafter'.symm)⟩
    | send => exact ⟨rfl, hafter.trans (hcore.trans hafter'.symm)⟩
    | giveUp => exact ⟨rfl, hafter.trans (hcore.trans hafter'.symm)⟩
  | skipped i => exact ⟨rfl, (core_after t i.event).trans ((i.leaves t.capture).2.2.trans hcore)⟩
  | lapsedWhole place => exact ⟨rfl, (core_after t (.giveUp place)).trans hcore⟩
  | lapsedThinned place => exact ⟨rfl, hcore.trans (core_after t' (.giveUp place)).symm⟩

theorem leads_run (h : s.Leads t) (es : List Event) : s.Leads (t.run es) := by
  induction es generalizing t with
  | nil => exact h
  | cons e es ih => exact ih (h.trans (leads_after t e))

theorem run_alike (hcore : t.capture.core = t'.capture.core) (h : s.Leads t) (h' : s.Leads t')
    {es : List Entry} (hmet : t.MetAlike t' es) :
    (t.sharedTicks es).map Tick.outcome = (t'.ticks (thinned es)).map Tick.outcome ∧
      (t.run (whole es)).capture.core = (t'.run (thinned es)).capture.core := by
  induction es generalizing t t' with
  | nil => exact ⟨rfl, hcore⟩
  | cons e es ih =>
    obtain ⟨hnow, hlater⟩ := hmet
    obtain ⟨houtcome, hcores⟩ := step_alike hcore h h' hnow
    obtain ⟨hrest, hend⟩ := ih hcores (leads_run h _) (leads_run h' _) hlater
    rw [sharedTicks, ticks_thinned_cons, List.map_append, List.map_append, houtcome, hrest,
      run_whole_cons t e es, run_thinned_cons t' e es]
    exact ⟨rfl, hend⟩

end Talk

namespace Roster

open Talk

variable {r r' : Roster}

/-- Where nobody waits, senders that get the same answers have their messages accepted alike. -/
theorem metAlike_of_answers {es : List Entry} (h : r.Sound) (h' : r'.Sound)
    (hnext : r.next = r'.next) (hheard : r.talk.heard = r'.talk.heard)
    (hcalm : r.talk.Calm (whole es)) (hcalm' : r'.talk.Calm (thinned es))
    (hsame : ∀ n, (n, true) ∈ (r.run (whole es)).answers ↔
      (n, true) ∈ (r'.run (thinned es)).answers) :
    r.talk.MetAlike r'.talk es := by
  induction es generalizing r r' with
  | nil => trivial
  | cons entry es ih =>
    refine ⟨fun _ => hheard, ?_⟩
    cases entry with
    | shared e =>
      have hadds := h.adds hcalm.1
      have hadds' := h'.adds hcalm'.1
      have hadded : (if r.talk.capture.commands.hasRoom then e.posted else []) =
          if r'.talk.capture.commands.hasRoom then e.posted else [] := by
        by_cases hposted : e.posted = []
        · simp only [hposted, ite_self]
        · have hroom : r.talk.capture.commands.hasRoom = r'.talk.capture.commands.hasRoom :=
            Bool.eq_iff_iff.mpr
              ⟨h.hasRoom_of_answers h' hnext hcalm hcalm' hposted fun n => (hsame n).mp,
                h'.hasRoom_of_answers h hnext.symm hcalm' hcalm hposted fun n => (hsame n).mpr⟩
          rw [hroom]
      have hrest := ih hadds.sound hadds'.sound (by rw [hadds.next, hadds'.next, hnext])
        (by rw [hadds.heard, hadds'.heard, hheard, hadded]) (calm_after hcalm)
        (calm_after hcalm') hsame
      rwa [talk_after, talk_after] at hrest
    | skipped i =>
      obtain ⟨hsound, hnext', hheard'⟩ := h.quiet hcalm rfl
      have hrest := ih hsound h' (hnext'.trans hnext) (hheard'.trans hheard) (calm_after hcalm)
        hcalm' hsame
      rwa [talk_after] at hrest
    | lapsedWhole place =>
      obtain ⟨hsound, hnext', hheard'⟩ := h.quiet hcalm rfl
      have hrest := ih hsound h' (hnext'.trans hnext) (hheard'.trans hheard) (calm_after hcalm)
        hcalm' hsame
      rwa [talk_after] at hrest
    | lapsedThinned place =>
      obtain ⟨hsound, hnext', hheard'⟩ := h'.quiet hcalm' rfl
      have hrest := ih h hsound (hnext.trans hnext'.symm) (hheard.trans hheard'.symm) hcalm
        (calm_after hcalm') hsame
      rwa [talk_after] at hrest

end Roster

namespace Capture

/-- What is left of the work of two captures is the same; the ticks need not be as many. -/
structure WorkedAlike (c c' : Capture) : Prop where
  clock : c.clock = c'.clock
  converter : c.converter = c'.converter
  scratch : c.amplifier.hasScratch = c'.amplifier.hasScratch
  failure : c.failure = c'.failure
  counters : { c.counters with ticks := c'.counters.ticks } = c'.counters

theorem workedAlike_of_core {c c' : Capture} (h : c.core = c'.core) : c.WorkedAlike c' := by
  have hworked : c.core.WorkedAlike c'.core := by
    rw [h]
    exact ⟨rfl, rfl, rfl, rfl, rfl⟩
  refine ⟨hworked.clock, hworked.converter, hworked.scratch, hworked.failure, ?_⟩
  exact congrArg (fun n : Counters => { n with ticks := c'.counters.ticks }) hworked.counters

end Capture

open Talk in
/--
Leave out of a run any ticks that are told not to work or are given an impossible shape. As long
as each tick that is to work meets with the same messages accepted as before, all ticks that are
left have the same result, ask the same of the device and leave the same samples, and all that
they worked on ends up the same. That is so if every sender gets the answer that it got before and
no tick finds one that waits. The ticks that are left out ask nothing and leave all samples as
they were, so the device and the samples that the others meet with do not depend on them.
-/
theorem skipped_ticks_invisible (t : Talk) (es : List Entry) :
    (∀ (i : IdleTick) (c : Capture), (i.tick c).requests = [] ∧ (i.tick c).pool = i.pool) ∧
    (t.MetAlike t es →
      (t.sharedTicks es).map Tick.outcome = (t.ticks (thinned es)).map Tick.outcome ∧
        (t.run (whole es)).capture.WorkedAlike (t.run (thinned es)).capture) ∧
    (t.held = [] → t.Calm (whole es) → t.Calm (thinned es) →
      (∀ n answer, (n, answer) ∈ (Roster.run { talk := t } (whole es)).answers ↔
        (n, answer) ∈ (Roster.run { talk := t } (thinned es)).answers) →
      t.MetAlike t es) := by
  refine ⟨fun i c => ⟨(i.leaves c).1, (i.leaves c).2.1⟩, fun hmet => ?_, ?_⟩
  · have hself : t.Leads t := .of_eq rfl rfl
    obtain ⟨hticks, hcore⟩ := run_alike rfl hself hself hmet
    exact ⟨hticks, Capture.workedAlike_of_core hcore⟩
  · intro hheld hcalm hcalm' hsame
    have hsound := Roster.sound_start hheld
    exact Roster.metAlike_of_answers hsound hsound rfl rfl hcalm hcalm' fun n => hsame n true

open Talk in
/--
A sender that waits is let in by the tick that is left out, or else by the next one that is not to
work; the tick that works is the same, though not its count. With nobody waiting the answers tell.
-/
theorem skipped_ticks_invisible_relieved :
    let start : Talk :=
      { capture :=
          { name := "mic", deviceId := ⟨1⟩, wired := true, settings := { queueDepth := 1 }
            clock := { interval := 10, maxSteps := 64 }, converter := ⟨8000, 8000⟩
            commands := { depth := 1 } } }
    let off : IdleTick := ⟨lone 1000, .empty, false, ⟨80, 8000⟩, .inl rfl⟩
    let shapeless : IdleTick := ⟨lone 1000, .empty, true, ⟨0, 8000⟩, .inr nofun⟩
    let work : Event := .tick (lone 1000) .empty true ⟨80, 8000⟩
    let es : List Entry := [.shared (.trySend (.setGain Gain.unity)),
      .shared (.send (.setGain Gain.mute)), .skipped off, .shared off.event, .shared work]
    let calm : List Entry := [.shared (.trySend .disable), .shared (.trySend .enable),
      .shared off.event, .shared (.send .enable), .skipped shapeless, .shared work]
    (start.run (whole es)).capture.counters.ticks = 3 ∧
      (start.run (thinned es)).capture.counters.ticks = 2 ∧
      (start.sharedTicks es).map Tick.outcome = (start.ticks (thinned es)).map Tick.outcome ∧
      (start.run (whole es)).capture.WorkedAlike (start.run (thinned es)).capture ∧
      start.MetAlike start calm := by
  intro start off shapeless work es calm
  have hmet : start.MetAlike start es := by
    refine ⟨nofun, nofun, nofun, nofun, fun _ => ?_, trivial⟩
    decide
  have hcalm : start.Calm (whole calm) := by
    refine ⟨nofun, nofun, fun _ => ?_, nofun, fun _ => ?_, fun _ => ?_, trivial⟩ <;> rfl
  have hcalm' : start.Calm (thinned calm) := by
    refine ⟨nofun, nofun, fun _ => ?_, nofun, fun _ => ?_, trivial⟩ <;> rfl
  obtain ⟨hticks, hworked⟩ := (skipped_ticks_invisible start es).2.1 hmet
  refine ⟨by decide, by decide, hticks, hworked, ?_⟩
  have hanswers : (Roster.run { talk := start } (whole calm)).answers =
      (Roster.run { talk := start } (thinned calm)).answers := by decide
  refine (skipped_ticks_invisible start calm).2.2 rfl hcalm hcalm' fun n answer => ?_
  rw [hanswers]

open Talk in
/--
Without a condition on the senders that wait, their answers are not enough: both are accepted in
both runs, but the second sets the gain of the tick that works only in the run that has the other
tick before it.
-/
theorem skipped_tick_heard_early :
    let start : Talk :=
      { capture :=
          { name := "mic", deviceId := ⟨1⟩, wired := true, settings := { queueDepth := 1 }
            clock := { interval := 10, maxSteps := 64 }, converter := ⟨8000, 8000⟩
            commands := { depth := 1 } } }
    let pool : Pool := { cells := #[⟨#[1000], 1⟩] }
    let off : IdleTick := ⟨lone 1000, pool, false, ⟨80, 8000⟩, .inl rfl⟩
    let es : List Entry := [.shared (.trySend (.setGain Gain.unity)),
      .shared (.send (.setGain Gain.mute)), .skipped off,
      .shared (.tick (lone 1000) pool true ⟨80, 8000⟩)]
    let one := Roster.run { talk := start } (whole es)
    let other := Roster.run { talk := start } (thinned es)
    Capture.ofSettings "mic" ⟨1⟩ true { queueDepth := 1 } = .ok start.capture ∧
      one.answers = [(0, true), (1, true)] ∧ other.answers = [(0, true), (1, true)] ∧
      (start.sharedTicks es).map Tick.outcome ≠ (start.ticks (thinned es)).map Tick.outcome ∧
      ¬ one.talk.capture.WorkedAlike other.talk.capture := by
  intro start pool off es one other
  have hframes : ((start.sharedTicks es).map Tick.outcome).map (fun o => o.1.toOption) ≠
      ((start.ticks (thinned es)).map Tick.outcome).map fun o => o.1.toOption := by decide
  refine ⟨rfl, by decide, by decide, fun hsame => hframes (by rw [hsame]), fun hworked => ?_⟩
  exact absurd hworked.scratch (by decide)

end MediaSession
