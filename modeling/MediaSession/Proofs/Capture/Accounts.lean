import MediaSession.Proofs.Capture.Drift
import MediaSession.Proofs.Capture.Steady

/-!
# MediaSession.Proofs.Capture.Accounts

The counters of a capture against an account of each of its ticks: what came of it, the steps of
its fetch, and the rates it read. Ticks after a fatal fault have no account.

* `Outcome`, `Account`, `Capture.accounts`: the ticks of a run, with what they say of the counters
* `RateConverter.turns`, `Capture.Rated`: how often rates change along a list, and what reading one
  pair of them does
* `Capture.Tallied`: the counters of two states differ by what the accounts between them say
* `ticks_accounted`: they do for every run from a new capture
-/

namespace MediaSession

namespace RateConverter

/-- How often rates change along a list, the first against those in force before. -/
def turns (last : RateConverter) : List RateConverter → Nat
  | [] => 0
  | r :: rs => (if r = last then 0 else 1) + r.turns rs

theorem turns_append (last : RateConverter) (rs rs' : List RateConverter) :
    last.turns (rs ++ rs') = last.turns rs + (rs.getLastD last).turns rs' := by
  induction rs generalizing last with
  | nil => simp [turns]
  | cons r rs ih => rw [List.cons_append, turns, ih, turns, List.getLastD_cons, Nat.add_assoc]

end RateConverter

/-- What can come of a tick that is counted. -/
inductive Outcome
  | delivered
  | dropped
  | disabled
  | invalid
  | notWired
deriving DecidableEq

def Outcome.of? : Except Fault TickYield → Option Outcome
  | .ok (.produced _) => some .delivered
  | .ok .disabled => some .disabled
  | .error (.frameUnavailable _ _ _ _) => some .dropped
  | .error (.conversion _ _ _) => some .dropped
  | .error (.rateUnavailable _ _) => some .dropped
  | .error (.invalidSettings _) => some .invalid
  | .error (.notWired _) => some .notWired
  | .error _ => none

/-- A tick that is counted, with the steps of its fetch and the rates to convert between. -/
structure Account where
  result : Except Fault TickYield
  forward : Nat := 0
  backward : Nat := 0
  rates : Option RateConverter := none

namespace Account

def outcome? (a : Account) : Option Outcome := Outcome.of? a.result

def tally (o : Outcome) (as : List Account) : Nat := as.countP fun a => a.outcome? = some o

theorem tally_append (o : Outcome) (as as' : List Account) :
    tally o (as ++ as') = tally o as + tally o as' := List.countP_append

theorem tally_eq_zero {o : Outcome} {as : List Account} (h : ∀ a ∈ as, a.outcome? ≠ some o) :
    tally o as = 0 := List.countP_eq_zero.mpr fun a ha => by simpa using h a ha

/-- The outcomes are all there are. -/
theorem length_eq_tallies {as : List Account} (h : ∀ a ∈ as, a.outcome?.isSome = true) :
    as.length = tally .delivered as + tally .dropped as + tally .disabled as +
      tally .invalid as + tally .notWired as := by
  induction as with
  | nil => rfl
  | cons a as ih =>
    obtain ⟨hfirst, hrest⟩ := List.forall_mem_cons.mp h
    obtain ⟨o, ho⟩ := Option.isSome_iff_exists.mp hfirst
    rw [List.length_cons, ih hrest]
    simp only [tally, List.countP_cons, ho]
    cases o <;> simp only [reduceCtorEq, Option.some.injEq, decide_true, decide_false,
      Bool.false_eq_true, if_true, if_false] <;> omega

end Account

namespace Capture

open Account

/-! ## Accounts -/

/-- The account of a tick by its result. -/
def accountOf (c : Capture) (device : Device Buffer) (shape : FrameShape)
    (result : Except Fault TickYield) : Account :=
  let synced := (c.tickFetch device shape).1
  if endsEarly result then { result }
  else
    { result
      forward := synced.forward
      backward := synced.backward
      rates :=
        if synced.fetch.isFound then
          (device.sampleRate c.deviceId).map fun rate => ⟨rate, shape.rate⟩
        else none }

def account? (c : Capture) : Event → Option Account
  | .tick device pool enabled shape =>
    if c.failure.isSome then none
    else some (c.accountOf device shape (c.tickWith device pool enabled shape).result)
  | .post _ => none

/-- The accounts of the ticks of a run, up to one that met with a fatal fault. -/
def accounts (c : Capture) : List Event → List Account
  | [] => []
  | e :: es => (c.account? e).toList ++ (c.apply e).accounts es

variable {c c' c'' : Capture} {as as' : List Account} {device : Device Buffer} {pool : Pool}
  {enabled : Bool} {shape : FrameShape}

/-- The counters of a state, from an earlier one and the accounts between them. -/
structure Tallied (c : Capture) (as : List Account) (c' : Capture) : Prop where
  known : ∀ a ∈ as, a.outcome?.isSome = true
  ticks : c'.counters.ticks = c.counters.ticks + as.length
  delivered : c'.counters.delivered = c.counters.delivered + tally .delivered as
  dropped : c'.counters.dropped = c.counters.dropped + tally .dropped as
  forward : c'.counters.forwardSteps = c.counters.forwardSteps + (as.map Account.forward).sum
  backward : c'.counters.backwardSteps = c.counters.backwardSteps + (as.map Account.backward).sum
  reconfigurations : c'.counters.reconfigurations =
    c.counters.reconfigurations + c.converter.turns (as.filterMap Account.rates)
  /-- The rates in force are those that were read last. -/
  converter : c'.converter = (as.filterMap Account.rates).getLastD c.converter

/-- Nothing was counted. -/
theorem tallied_of_same (hcounters : c'.counters = c.counters)
    (hconverter : c'.converter = c.converter) : c.Tallied [] c' := by
  refine ⟨by simp, ?_, ?_, ?_, ?_, ?_, ?_, hconverter⟩ <;> rw [hcounters] <;> rfl

theorem Tallied.trans (h : c.Tallied as c') (h' : c'.Tallied as' c'') :
    c.Tallied (as ++ as') c'' where
  known := List.forall_mem_append.mpr ⟨h.known, h'.known⟩
  ticks := by rw [h'.ticks, h.ticks, List.length_append, Nat.add_assoc]
  delivered := by rw [h'.delivered, h.delivered, tally_append, Nat.add_assoc]
  dropped := by rw [h'.dropped, h.dropped, tally_append, Nat.add_assoc]
  forward := by rw [h'.forward, h.forward, List.map_append, List.sum_append, Nat.add_assoc]
  backward := by rw [h'.backward, h.backward, List.map_append, List.sum_append, Nat.add_assoc]
  reconfigurations := by
    rw [h'.reconfigurations, h.reconfigurations, h.converter, List.filterMap_append,
      RateConverter.turns_append, Nat.add_assoc]
  converter := by
    rw [h'.converter, h.converter, List.filterMap_append]
    simp [List.getLastD_eq_getLast?, List.getLast?_append]

/-! ## Rates -/

/-- Rates that were read, if any, come into force, and count if they are others. -/
structure Rated (c : Capture) (rates : Option RateConverter) (c' : Capture) : Prop where
  reconfigurations : c'.counters.reconfigurations =
    c.counters.reconfigurations + c.converter.turns rates.toList
  converter : c'.converter = rates.getD c.converter

theorem rated_setRates (c : Capture) (input output : UInt32) :
    c.Rated (some ⟨input, output⟩) (c.setRates input output) := by
  unfold setRates RateConverter.setRates
  by_cases h : (⟨input, output⟩ : RateConverter) = c.converter
  · exact ⟨by simp [h, RateConverter.turns], by simp [h]⟩
  · exact ⟨by simp [h, RateConverter.turns, count], by simp [h, count]⟩

/-- A device rate comes into force before anything can go wrong with the conversion. -/
theorem rated_process (c : Capture) (device : Device Buffer) (shape : FrameShape) (pool : Pool)
    (frame : Buffer) :
    c.Rated ((device.sampleRate c.deviceId).map fun rate => ⟨rate, shape.rate⟩)
      (c.process device shape pool frame).2.1 := by
  unfold process
  cases device.sampleRate c.deviceId with
  | none => exact ⟨rfl, rfl⟩
  | some rate =>
    obtain ⟨hcount, hconverter⟩ := c.rated_setRates rate shape.rate
    dsimp only
    split
    · exact ⟨hcount, hconverter⟩
    · exact ⟨hcount, hconverter⟩

theorem rated_take (c : Capture) (device : Device Buffer) (shape : FrameShape) (pool : Pool) :
    c.Rated
      (if (c.fetch device shape).1.fetch.isFound then
        (device.sampleRate c.deviceId).map fun rate => ⟨rate, shape.rate⟩
      else none)
      (c.take device shape pool).capture := by
  unfold take Fetch.isFound
  cases hframe : (c.fetch device shape).1.fetch.frame? with
  | none =>
    simp only [hframe, Option.isSome_none, Bool.false_eq_true, if_false]
    exact ⟨rfl, rfl⟩
  | some frame =>
    simp only [hframe, Option.isSome_some, if_true]
    obtain ⟨hcount, hconverter⟩ :=
      (c.fetch device shape).2.rated_process device shape (pool.share frame) frame
    exact ⟨hcount, hconverter⟩

/-! ## One tick -/

/-- A tick with nothing in its way is the taking of a frame. -/
theorem tickWith_eq_take (hfailure : c.failure = none)
    (hon : (enabled && c.drain.enabled) = true) (hshape : shape.fault? = none)
    (hwired : c.wired = true) :
    c.tickWith device pool enabled shape = c.opened.take device shape pool := by
  unfold tickWith
  rw [hfailure]
  change (if !enabled || !c.opened.enabled then _ else _) = _
  rw [enabled_opened, ← Bool.not_and, hon, hshape]
  exact if_pos (c.wired_opened.trans hwired)

theorem synced_fetch_opened (c : Capture) (device : Device Buffer) (shape : FrameShape) :
    (c.opened.fetch device shape).1 = (c.tickFetch device shape).1 := by
  rw [opened, drain_eq]
  rfl

theorem result_accountOf (c : Capture) (device : Device Buffer) (shape : FrameShape)
    (result : Except Fault TickYield) : (c.accountOf device shape result).result = result := by
  unfold accountOf
  split <;> rfl

theorem Taken.rated {t : Tick} (h : Taken c.opened device shape pool t)
    (ht : c.opened.take device shape pool = t) :
    c.Rated (c.accountOf device shape t.result).rates t.capture := by
  obtain ⟨hcount, hconverter⟩ := c.opened.rated_take device shape pool
  rw [counters_opened, converter_opened, deviceId_opened, synced_fetch_opened, ht] at hcount
  rw [converter_opened, deviceId_opened, synced_fetch_opened, ht] at hconverter
  simp only [accountOf, h.endsEarly_eq_false, Bool.false_eq_true, if_false]
  exact ⟨hcount, hconverter⟩

theorem Ticked.rated {t : Tick} (h : Ticked c device pool enabled shape t)
    (ht : c.tickWith device pool enabled shape = t) (hfailure : c.failure = none) :
    c.Rated (c.accountOf device shape t.result).rates t.capture := by
  have hconverter := c.converter_opened
  have hcount := congrArg Counters.reconfigurations c.counters_opened
  cases h with
  | latched h =>
    rw [hfailure] at h
    cases h
  | disabled _ hoff => exact ⟨hcount, hconverter⟩
  | invalid _ hon hshape => exact ⟨hcount, hconverter⟩
  | notWired _ hon hshape hwired hfault =>
    subst hfault
    exact ⟨hcount, hconverter⟩
  | taken _ hon hshape hwired htaken =>
    exact htaken.rated ((tickWith_eq_take hfailure hon hshape hwired).symm.trans ht)

theorem Ticked.steps {t : Tick} (h : Ticked c device pool enabled shape t)
    (hfailure : c.failure = none) :
    let a := c.accountOf device shape t.result
    t.capture.counters.forwardSteps = c.counters.forwardSteps + a.forward ∧
      t.capture.counters.backwardSteps = c.counters.backwardSteps + a.backward := by
  have hearly : (c.failure.isSome || endsEarly t.result) = endsEarly t.result := by
    rw [hfailure]
    rfl
  rcases h.rests_or_moves with ⟨hidle, -, hrests⟩ | ⟨hidle, -, -, hmoves⟩
  · rw [hearly] at hidle
    simp only [accountOf, hidle, if_true]
    exact ⟨hrests.forward, hrests.backward⟩
  · rw [hearly] at hidle
    simp only [accountOf, hidle, Bool.false_eq_true, if_false]
    exact ⟨hmoves.forward, hmoves.backward⟩

/-- One tick more, and one frame more if it is said to be delivered or dropped. -/
structure CountsOne (n : Counters) (result : Except Fault TickYield) (n' : Counters) : Prop where
  known : (Outcome.of? result).isSome = true
  ticks : n'.ticks = n.ticks + 1
  delivered : n'.delivered =
    n.delivered + if Outcome.of? result = some .delivered then 1 else 0
  dropped : n'.dropped = n.dropped + if Outcome.of? result = some .dropped then 1 else 0

theorem Ticked.countsOne {t : Tick} (h : Ticked c device pool enabled shape t)
    (hfailure : c.failure = none) : CountsOne c.counters t.result t.capture.counters := by
  have hticks := congrArg Counters.ticks c.counters_opened
  have hdelivered := congrArg Counters.delivered c.counters_opened
  have hdropped := congrArg Counters.dropped c.counters_opened
  cases h with
  | latched h =>
    rw [hfailure] at h
    cases h
  | disabled _ hoff => exact ⟨rfl, hticks, hdelivered, hdropped⟩
  | invalid _ hon hshape => exact ⟨rfl, hticks, hdelivered, hdropped⟩
  | notWired _ hon hshape hwired hfault =>
    subst hfault
    exact ⟨rfl, hticks, hdelivered, hdropped⟩
  | taken _ hon hshape hwired htaken =>
    cases htaken with
    | missed hframe => exact ⟨rfl, hticks, hdelivered, congrArg (· + 1) hdropped⟩
    | rateless hframe hrate hfault =>
      subst hfault
      exact ⟨rfl, hticks, hdelivered, congrArg (· + 1) hdropped⟩
    | unconverted hframe hrate hfault =>
      obtain rfl := eq_conversion_of_convertBuffer hfault
      exact ⟨rfl, hticks, hdelivered, congrArg (· + 1) hdropped⟩
    | produced hframe hrate hconverted =>
      exact ⟨rfl, hticks, congrArg (· + 1) hdelivered, hdropped⟩

theorem tallied_tick (hfailure : c.failure = none) :
    c.Tallied [c.accountOf device shape (c.tickWith device pool enabled shape).result]
      (c.tickWith device pool enabled shape).capture := by
  have hticked := ticked_tickWith c device pool enabled shape
  obtain ⟨hreconfigurations, hconverter⟩ := hticked.rated rfl hfailure
  obtain ⟨hforward, hbackward⟩ := hticked.steps hfailure
  have hcounted := hticked.countsOne hfailure
  let a := c.accountOf device shape (c.tickWith device pool enabled shape).result
  have houtcome : a.outcome? = Outcome.of? (c.tickWith device pool enabled shape).result :=
    congrArg Outcome.of? (c.result_accountOf device shape _)
  have htally (o : Outcome) : tally o [a] = if a.outcome? = some o then 1 else 0 := by
    simp [tally, List.countP_singleton]
  have hrates : [a].filterMap Account.rates = a.rates.toList := by
    cases h : a.rates <;> simp [h]
  refine ⟨fun a' ha' => ?_, hcounted.ticks, ?_, ?_, ?_, ?_, ?_, ?_⟩
  · rw [List.mem_singleton.mp ha', houtcome]
    exact hcounted.known
  · rw [htally, houtcome]
    exact hcounted.delivered
  · rw [htally, houtcome]
    exact hcounted.dropped
  · simpa using hforward
  · simpa using hbackward
  · rw [hrates]
    exact hreconfigurations
  · rw [hrates, hconverter]
    cases a.rates <;> rfl

/-! ## Runs -/

theorem tallied_apply (c : Capture) (e : Event) : c.Tallied (c.account? e).toList (c.apply e) := by
  cases e with
  | tick device pool enabled shape =>
    cases hfailure : c.failure with
    | none =>
      simp only [account?, hfailure, Option.isSome_none, Bool.false_eq_true, if_false,
        Option.toList_some]
      exact tallied_tick hfailure
    | some fault =>
      simp only [account?, hfailure, Option.isSome_some, if_true, Option.toList_none]
      have hsame : c.apply (.tick device pool enabled shape) = c := by
        simp [apply, tickWith, hfailure]
      rw [hsame]
      exact tallied_of_same rfl rfl
  | post m =>
    obtain ⟨q, hpost⟩ := c.exists_apply_post m
    rw [hpost, account?, Option.toList_none]
    exact tallied_of_same rfl rfl

theorem tallied_run (c : Capture) (es : List Event) : c.Tallied (c.accounts es) (c.run es) := by
  induction es generalizing c with
  | nil => exact tallied_of_same rfl rfl
  | cons e es ih => exact (c.tallied_apply e).trans (ih (c.apply e))

/-! ## Ticks with the configured shape -/

theorem wired_apply (c : Capture) (e : Event) : (c.apply e).wired = c.wired := by
  have hopened := c.wired_opened
  cases e with
  | tick device pool enabled shape =>
    have hticked := ticked_tickWith c device pool enabled shape
    rw [apply]
    generalize c.tickWith device pool enabled shape = t at hticked
    cases hticked with
    | latched hfailure => rfl
    | disabled hfailure hoff => exact hopened
    | invalid hfailure hon hshape => exact hopened
    | notWired hfailure hon hshape hwired hfault => exact hopened
    | taken hfailure hon hshape hwired htaken => cases htaken <;> exact hopened
  | post m =>
    obtain ⟨q, hpost⟩ := c.exists_apply_post m
    rw [hpost]

/-- A tick that asks the device is neither invalid nor without a device buffer. -/
theorem outcome_of_endsEarly {result : Except Fault TickYield} (h : endsEarly result = false) :
    Outcome.of? result ≠ some .invalid ∧ Outcome.of? result ≠ some .notWired := by
  cases result with
  | ok yield => cases yield <;> exact ⟨nofun, nofun⟩
  | error fault =>
    cases fault with
    | invalidSettings f => cases h
    | notWired resource => cases h
    | _ => exact ⟨nofun, nofun⟩

theorem Ticked.outcome_of_wired {t : Tick} (h : Ticked c device pool enabled shape t)
    (hfailure : c.failure = none) (hwired : c.wired = true) (hshape : shape.fault? = none) :
    Outcome.of? t.result ≠ some .invalid ∧ Outcome.of? t.result ≠ some .notWired := by
  cases h with
  | latched h =>
    rw [hfailure] at h
    cases h
  | disabled _ hoff => exact ⟨nofun, nofun⟩
  | invalid _ hon h =>
    rw [hshape] at h
    cases h
  | notWired _ hon _ h hfault =>
    rw [hwired] at h
    cases h
  | taken _ hon _ _ htaken =>
    exact outcome_of_endsEarly htaken.endsEarly_eq_false

/-- A wired capture ticked with a valid shape delivers, drops, or is disabled. -/
theorem outcome_accounts_of_wired {es : List Event} (hwired : c.wired = true)
    (hshape : shape.fault? = none) (hes : AllShaped shape es) :
    ∀ a ∈ c.accounts es, a.outcome? ≠ some .invalid ∧ a.outcome? ≠ some .notWired := by
  induction es generalizing c with
  | nil => simp [accounts]
  | cons e es ih =>
    have hlater := ih ((c.wired_apply e).trans hwired) hes.tail
    refine List.forall_mem_append.mpr ⟨fun a ha => ?_, hlater⟩
    cases e with
    | tick device pool enabled shape' =>
      obtain rfl : shape' = shape := hes device pool enabled shape' List.mem_cons_self
      cases hfailure : c.failure with
      | some fault => simp [account?, hfailure] at ha
      | none =>
        simp only [account?, hfailure, Option.isSome_none, Bool.false_eq_true, if_false,
          Option.toList_some, List.mem_singleton] at ha
        rw [ha, outcome?, result_accountOf]
        exact (ticked_tickWith c device pool enabled _).outcome_of_wired hfailure hwired hshape
    | post m => simp [account?] at ha

theorem tallied_ofSettings {name : String} {d : DeviceId} {wired : Bool}
    {settings : CaptureSettings} (h : ofSettings name d wired settings = .ok c) :
    c.counters = {} ∧ c.converter = ⟨settings.samplesPerSecond, settings.samplesPerSecond⟩ ∧
      c.settings = settings := by
  unfold ofSettings at h
  split at h
  · cases h
  · cases h
    exact ⟨rfl, rfl, rfl⟩

end Capture

open Account in
/--
The counters of a capture are what the accounts of its ticks come to, over every run from a new
one: each tick is delivered, dropped, disabled, invalid or without a device buffer, the steps are
those of all fetches, and a reconfiguration is a tick whose rates are not those of the tick before
it that read any. A wired capture ticked with its own settings never is invalid or unwired.
-/
theorem ticks_accounted {name : String} {d : DeviceId} {wired : Bool}
    {settings : CaptureSettings} {c : Capture}
    (hc : Capture.ofSettings name d wired settings = .ok c) (es : List Capture.Event) :
    let n := (c.run es).counters
    let as := c.accounts es
    let configured : RateConverter := ⟨settings.samplesPerSecond, settings.samplesPerSecond⟩
    n.ticks = as.length ∧
      n.ticks = n.delivered + n.dropped + tally .disabled as + tally .invalid as +
        tally .notWired as ∧
      n.delivered = tally .delivered as ∧
      n.dropped = tally .dropped as ∧
      n.forwardSteps = (as.map Account.forward).sum ∧
      n.backwardSteps = (as.map Account.backward).sum ∧
      n.reconfigurations = configured.turns (as.filterMap Account.rates) ∧
      (wired = true → Capture.AllShaped settings.shape es →
        n.ticks = n.delivered + n.dropped + tally .disabled as) := by
  intro n as configured
  obtain ⟨hcounters, hconverter, hsettings⟩ := Capture.tallied_ofSettings hc
  have htallied := c.tallied_run es
  have hticks : n.ticks = as.length := by simpa [hcounters] using htallied.ticks
  have hdelivered : n.delivered = tally .delivered as := by
    simpa [hcounters] using htallied.delivered
  have hdropped : n.dropped = tally .dropped as := by simpa [hcounters] using htallied.dropped
  have hforward : n.forwardSteps = (as.map Account.forward).sum := by
    simpa [hcounters] using htallied.forward
  have hbackward : n.backwardSteps = (as.map Account.backward).sum := by
    simpa [hcounters] using htallied.backward
  have hreconfigurations : n.reconfigurations =
      configured.turns (as.filterMap Account.rates) := by
    simpa [hcounters, hconverter] using htallied.reconfigurations
  have hall : n.ticks = n.delivered + n.dropped + tally .disabled as + tally .invalid as +
      tally .notWired as := by
    rw [hticks, hdelivered, hdropped]
    exact length_eq_tallies htallied.known
  refine ⟨hticks, hall, hdelivered, hdropped, hforward, hbackward, hreconfigurations,
    fun hwired hes => ?_⟩
  subst hwired
  have hsteady := Capture.steady_ofSettings hc
  have hnone := Capture.outcome_accounts_of_wired hsteady.wired (hsettings ▸ hsteady.shape) hes
  rw [hall, tally_eq_zero fun a ha => (hnone a ha).1, tally_eq_zero fun a ha => (hnone a ha).2,
    Nat.add_zero]

open Account in
/-- A frame of a device with no usable rate, then one three steps on, and a disabled tick. -/
theorem ticks_accounted_three :
    let unrated : Device Buffer := { lone 1000 with sampleRate := fun _ => some 0 }
    let c : Capture :=
      { name := "mic", deviceId := ⟨1⟩, wired := true, settings := {}
        clock := { interval := 10, maxSteps := 64 }, converter := ⟨8000, 8000⟩
        commands := { depth := 32 } }
    let es : List Capture.Event := [.tick unrated .empty true ⟨80, 8000⟩,
      .tick (lone 1040) .empty true ⟨80, 8000⟩, .post .disable,
      .tick (lone 1050) .empty true ⟨80, 8000⟩]
    let n := (c.run es).counters
    n.ticks = n.delivered + n.dropped + 1 ∧ n.delivered = 1 ∧ n.dropped = 1 ∧
      n.forwardSteps = 3 ∧ n.reconfigurations = (RateConverter.mk 8000 8000).turns
        [⟨0, 8000⟩, ⟨8000, 8000⟩] := by
  intro unrated c es n
  have hc : Capture.ofSettings "mic" ⟨1⟩ true {} = .ok c := rfl
  have hes : Capture.AllShaped ⟨80, 8000⟩ es := by
    intro device pool enabled shape h
    simp only [es, List.mem_cons, Capture.Event.tick.injEq, reduceCtorEq, List.not_mem_nil,
      false_or, or_false] at h
    rcases h with ⟨-, -, -, h⟩ | ⟨-, -, -, h⟩ | ⟨-, -, -, h⟩ <;> exact h
  obtain ⟨-, -, hdelivered, hdropped, hforward, -, hreconfigurations, hwired⟩ :=
    ticks_accounted hc es
  have htally : tally .delivered (c.accounts es) = 1 ∧ tally .dropped (c.accounts es) = 1 ∧
      tally .disabled (c.accounts es) = 1 := by decide
  have hsteps : ((c.accounts es).map Account.forward).sum = 3 := by decide
  have hrates : (c.accounts es).filterMap Account.rates = [⟨0, 8000⟩, ⟨8000, 8000⟩] := by decide
  have hticks := hwired rfl hes
  rw [htally.2.2] at hticks
  exact ⟨hticks, hdelivered.trans htally.1, hdropped.trans htally.2.1, hforward.trans hsteps,
    hrates ▸ hreconfigurations⟩

end MediaSession
