import MediaSession.Proofs.Capture.Arrival
import MediaSession.Proofs.Capture.Steady
import MediaSession.Proofs.Device.Gaps

/-!
# MediaSession.Proofs.Capture.Losses

A capture that is ticked once an interval, while some of the frames of its device get lost. The
clock falls back behind the device where frames repeat, pays for gaps with dropped ticks, and is
driven on by the device when it keeps too few frames.

* `Lossy`: the device and the capture, with what came in each interval
* `Lossy.Settled`: the invariant; the places up to the baseline pay for all that was dropped
* `Due.exists_landing`: a tick repeats a frame, takes the next, misses it in a gap, or walks toward
  the oldest that is left, and every time the places that it passes pay for it
* `dropped_le_lost`: no more ticks are dropped than frames were lost
-/

namespace MediaSession

/-! ## Rounds -/

/-- What comes in one interval, and the samples that its tick works on. -/
structure Round where
  frame : Option Buffer
  pool : Pool

structure Lossy where
  store : FrameStore Buffer
  capture : Capture
  /-- What came in each interval, the earliest first. -/
  log : List (Option Buffer) := []

namespace Lossy

/-- The clock with which the next tick asks. -/
def clock (l : Lossy) : Clock := l.capture.clock.setShape l.capture.settings.shape

def slotOf (l : Lossy) (start k : Nat) : Nat := slot start l.clock.interval k

def receive (l : Lossy) (start : Nat) (frame? : Option Buffer) : Lossy :=
  { l with
    store := frame?.elim l.store fun frame =>
      l.store.apply (.push l.capture.deviceId (l.slotOf start l.log.length) frame)
    log := l.log ++ [frame?] }

def tick (l : Lossy) (pool : Pool) : Lossy :=
  { l with capture := (l.capture.tick l.store.device pool).capture }

def round (l : Lossy) (start : Nat) (r : Round) : Lossy := (l.receive start r.frame).tick r.pool

def run (l : Lossy) (start : Nat) (rs : List Round) : Lossy :=
  rs.foldl (fun l r => l.round start r) l

/-- What the next tick fetches. -/
def outcome (l : Lossy) : Synced Buffer × Clock :=
  l.clock.fetch l.store.device l.capture.deviceId

def frames (l : Lossy) (start : Nat) : History Buffer :=
  History.keep l.store.capacity (Pushes.gappy start l.clock.interval l.log)

/-- How many frames the device has given up. -/
def givenUp (l : Lossy) : Nat := arrived l.log - l.store.capacity

/-- A capture in working order, and a device that holds the newest of what came. -/
structure Supplied (start : Nat) (l : Lossy) : Prop where
  steady : l.capture.Steady
  rate : ∃ rate, l.store.sampleRate? l.capture.deviceId = some rate ∧ rate ≠ 0
  capacity_pos : 1 ≤ l.store.capacity
  kept : FrameStore.Kept l.store.capacity (l.store.track? l.capture.deviceId)
    (some (Pushes.gappy start l.clock.interval l.log))

/--
A baseline at place `q`. The frames that can no longer be delivered are those up to there, and
those given up; of the places up to `q` they leave enough to pay for all dropped ticks.
-/
structure Settled (start q : Nat) (l : Lossy) : Prop extends l.Supplied start where
  previous : l.clock.previous = some (l.slotOf start q)
  reached : ∃ k f, q ≤ k ∧ l.log[k]? = some (some f)
  paid : l.capture.counters.dropped + max (arrived (l.log.take (q + 1))) l.givenUp ≤ q + 1
  counted : l.capture.counters.delivered + l.capture.counters.dropped = l.log.length

/-- The same before a tick: the frame that came may have made the device give up one more. -/
structure Due (start q : Nat) (l : Lossy) : Prop extends l.Supplied start where
  previous : l.clock.previous = some (l.slotOf start q)
  reached : ∃ k f, q ≤ k ∧ l.log[k]? = some (some f)
  next : q + 1 < l.log.length
  paid : l.capture.counters.dropped + arrived (l.log.take (q + 1)) ≤ q + 1
  short : l.capture.counters.dropped + l.givenUp ≤ q + 2
  quiet : (∀ k f, l.log[k]? = some (some f) → k ≤ q) →
    l.capture.counters.dropped + l.givenUp ≤ q + 1
  counted : l.capture.counters.delivered + l.capture.counters.dropped + 1 = l.log.length

variable {start q : Nat} {l : Lossy}

theorem Supplied.interval_pos (h : l.Supplied start) : 1 ≤ l.clock.interval :=
  FrameShape.interval_pos h.steady.shape

theorem Supplied.serves (h : l.Supplied start) (hcame : arrived l.log ≠ 0) :
    Serves l.store.device l.capture.deviceId (l.frames start) := by
  refine Serves.of_kept h.kept (Pushes.ascending_gappy h.interval_pos _) h.capacity_pos ?_
  rw [← List.length_pos_iff, Pushes.length_gappy]
  exact Nat.pos_of_ne_zero hcame

/-! ## What comes -/

theorem capacity_receive (l : Lossy) (start : Nat) (frame? : Option Buffer) :
    (l.receive start frame?).store.capacity = l.store.capacity := by
  cases frame? with
  | none => rfl
  | some f => exact FrameStore.capacity_apply l.store (.push _ _ f)

theorem Supplied.receive (h : l.Supplied start) (frame? : Option Buffer) :
    (l.receive start frame?).Supplied start := by
  have hcapacity := capacity_receive l start frame?
  cases frame? with
  | none =>
    refine ⟨h.steady, h.rate, h.capacity_pos, ?_⟩
    show FrameStore.Kept _ _ (some (Pushes.gappy start _ (l.log ++ [none])))
    rw [Pushes.gappy_append_none]
    exact h.kept
  | some f =>
    have hkept := FrameStore.kept_apply l.store
      (.push l.capture.deviceId (l.slotOf start l.log.length) f) l.capture.deviceId h.kept
    simp only [Change.device, if_true] at hkept
    refine ⟨h.steady, ?_, hcapacity ▸ h.capacity_pos, ?_⟩
    · obtain ⟨rate, hrate, hne⟩ := h.rate
      exact ⟨rate, (FrameStore.sampleRate?_push _ _ _ _ _).trans hrate, hne⟩
    · show FrameStore.Kept _ _ (some (Pushes.gappy start _ (l.log ++ [some f])))
      rw [Pushes.gappy_append_some]
      exact hkept

theorem givenUp_receive (l : Lossy) (start : Nat) (frame? : Option Buffer) :
    (l.receive start frame?).givenUp =
      arrived l.log + frame?.isSome.toNat - l.store.capacity := by
  rw [givenUp, capacity_receive]
  show arrived (l.log ++ [frame?]) - _ = _
  rw [arrived_append]
  cases frame? <;> rfl

theorem Settled.receive (h : l.Settled start q) (frame? : Option Buffer) :
    (l.receive start frame?).Due start q := by
  obtain ⟨k, f, hqk, hk⟩ := h.reached
  have hlt : k < l.log.length := (List.getElem?_eq_some_iff.mp hk).1
  have hlog : (l.receive start frame?).log = l.log ++ [frame?] := rfl
  have hcounters : (l.receive start frame?).capture.counters = l.capture.counters := rfl
  have hpaid := h.paid
  have hgiven := givenUp_receive l start frame?
  rw [givenUp] at hpaid
  refine ⟨h.toSupplied.receive frame?, h.previous, ⟨k, f, hqk, ?_⟩, ?_, ?_, ?_,
    fun hquiet => ?_, ?_⟩
  · rw [hlog, List.getElem?_append_left hlt, hk]
  · rw [hlog, List.length_append]
    exact Nat.succ_lt_succ (Nat.lt_of_le_of_lt hqk hlt)
  · rw [hlog, hcounters, List.take_append_of_le_length (by omega)]
    omega
  · have hone : frame?.isSome.toNat ≤ 1 := Bool.toNat_le _
    rw [hgiven, hcounters]
    omega
  · -- a frame that came just now would lie after the baseline
    have hnone : frame? = none := by
      cases frame? with
      | none => rfl
      | some f =>
        have hlate := hquiet l.log.length f (by rw [hlog]; simp)
        omega
    subst hnone
    rw [hgiven, hcounters, Option.isSome_none, Bool.toNat_false]
    omega
  · rw [hlog, hcounters, List.length_append, h.counted]
    rfl

/-! ## Where a tick ends -/

def Lands (l : Lossy) (start q : Nat) (hit : Bool) : Prop :=
  l.outcome.1.time = l.slotOf start q ∧ l.outcome.1.fetch.isFound = hit

theorem Due.arrived_ne_zero (h : l.Due start q) : arrived l.log ≠ 0 := by
  obtain ⟨k, f, -, hk⟩ := h.reached
  have hsucc := arrived_take_succ hk
  have hall := arrived_take_le l.log (k + 1)
  simp only [Option.isSome_some, Bool.toNat_true] at hsucc
  omega

theorem Due.nextTime (h : l.Due start q) (newest : Nat) :
    l.clock.nextTime newest = l.slotOf start (q + 1) :=
  (Clock.nextTime_of_previous h.previous newest).trans (slot_succ _ _ _).symm

section Landing

variable {first last : Nat} (h : l.Due start q)
  (hextent : Pushes.Extent start l.clock.interval l.log l.store.capacity first last)

include h hextent

theorem Due.lands_before (hbefore : q + 1 < first) :
    ∃ r hit, l.Lands start r hit ∧
      (hit = true ∧ r = first ∨ hit = false ∧ r = q + 1 + l.clock.maxSteps ∧ r < first) := by
  have hsplit : first = q + 1 + (first - (q + 1)) := by omega
  have htoward : l.slotOf start (q + 1) + (first - (q + 1)) * l.clock.interval =
      (l.frames start).oldest := by
    rw [frames, hextent.oldest, slotOf, ← slot_add, ← hsplit]
  obtain ⟨htime, hfound⟩ := (h.serves h.arrived_ne_zero).fetch_before h.interval_pos
    (h.nextTime _) (by omega) htoward
  rw [slotOf, ← slot_add] at htime
  rcases Nat.lt_or_ge l.clock.maxSteps (first - (q + 1)) with hfar | hnear
  · rw [Nat.min_eq_right (Nat.le_of_lt hfar)] at htime
    have hmissed : l.outcome.1.fetch.isFound = false :=
      Bool.eq_false_iff.mpr fun hhit => Nat.not_le_of_lt hfar (hfound.mp hhit)
    exact ⟨_, false, ⟨htime, hmissed⟩, .inr ⟨rfl, rfl, by omega⟩⟩
  · rw [Nat.min_eq_left hnear, ← hsplit] at htime
    exact ⟨first, true, ⟨htime, hfound.mpr hnear⟩, .inl ⟨rfl, rfl⟩⟩

/-- With nothing after the baseline its frame comes again. -/
theorem Due.lands_after (hafter : last < q + 1) : l.Lands start q true ∧ last = q := by
  obtain ⟨k, f, hqk, hk⟩ := h.reached
  have hle := hextent.le_last k f hk
  obtain rfl : last = q := by omega
  have htoward : l.slotOf start (last + 1) =
      (l.frames start).newest + 1 * l.clock.interval := by
    rw [frames, hextent.newest, slotOf, slot_succ, Nat.one_mul]
  have hsteps : 1 ≤ l.clock.maxSteps := h.steady.maxSteps_pos
  obtain ⟨htime, hfound⟩ := (h.serves h.arrived_ne_zero).fetch_after h.interval_pos
    (h.nextTime _) Nat.one_pos htoward
  rw [Nat.min_eq_left hsteps, Nat.one_mul, slotOf, slot_succ] at htime
  exact ⟨⟨Nat.add_right_cancel htime, hfound.mpr hsteps⟩, rfl⟩

theorem Due.lands_next {f : Buffer} (hbetween : first ≤ q + 1)
    (hcame : l.log[q + 1]? = some (some f)) : l.Lands start (q + 1) true := by
  have hmem : (l.slotOf start (q + 1), f) ∈ l.frames start :=
    Pushes.mem_keep_gappy.mpr ⟨q + 1, hcame, rfl,
      hextent.given_up ▸ arrived_take_mono l.log hbetween⟩
  obtain ⟨htime, hfetch⟩ := (h.serves h.arrived_ne_zero).fetch_mem (h.nextTime _) hmem
  exact ⟨htime, congrArg Fetch.isFound hfetch⟩

theorem Due.lands_lost (hafter : first < q + 1) (hbefore : q + 1 < last)
    (hlost : l.log[q + 1]? = some none) : l.Lands start (q + 1) false := by
  have hmono := slot_strictMono start h.interval_pos
  refine (h.serves h.arrived_ne_zero).fetch_between (h.nextTime _) ?_ ?_ ?_
  · rw [frames, hextent.oldest]
    exact hmono hafter
  · rw [frames, hextent.newest]
    exact hmono hbefore
  · intro hmem
    obtain ⟨⟨t, f⟩, he, ht⟩ := List.mem_map.mp hmem
    obtain ⟨k, hk, hslot, -⟩ := Pushes.mem_keep_gappy.mp he
    obtain rfl : k = q + 1 := hmono.injective (hslot.symm.trans ht)
    rw [hlost] at hk
    cases hk

end Landing

/-- Wherever a tick ends, a drop it makes is paid for by a place without a frame. -/
theorem Due.exists_landing (h : l.Due start q) :
    ∃ r hit, l.Lands start r hit ∧ q ≤ r ∧ (∃ k f, r ≤ k ∧ l.log[k]? = some (some f)) ∧
      l.capture.counters.dropped + (!hit).toNat +
        max (arrived (l.log.take (r + 1))) l.givenUp ≤ r + 1 := by
  obtain ⟨first, last, hextent⟩ :=
    Pushes.exists_extent start l.clock.interval h.capacity_pos h.arrived_ne_zero
  obtain ⟨f, hfirst⟩ := hextent.first_came
  obtain ⟨g, hlast⟩ := hextent.last_came
  have hfl : first ≤ last := hextent.le_last first f hfirst
  have hgiven : arrived (l.log.take first) = l.givenUp := hextent.given_up
  have hsucc := arrived_take_succ hfirst
  have hpaid := h.paid
  have hshort := h.short
  rw [Option.isSome_some, Bool.toNat_true] at hsucc
  rcases Nat.lt_or_ge (q + 1) first with hbefore | hbefore
  · obtain ⟨r, hit, hlands, ⟨rfl, rfl⟩ | ⟨rfl, rfl, hr⟩⟩ := h.lands_before hextent hbefore
    · refine ⟨r, true, hlands, by omega, ⟨r, f, Nat.le_refl r, hfirst⟩, ?_⟩
      simp only [Bool.not_true, Bool.toNat_false]
      omega
    · -- a walk that finds nothing passes at least one place before the first frame
      have hmono := arrived_take_mono l.log (show q + 1 + l.clock.maxSteps + 1 ≤ first from hr)
      have hsteps : 1 ≤ l.clock.maxSteps := h.steady.maxSteps_pos
      refine ⟨_, false, hlands, by omega, ⟨last, g, by omega, hlast⟩, ?_⟩
      simp only [Bool.not_false, Bool.toNat_true]
      omega
  · rcases Nat.lt_or_ge last (q + 1) with hafter | hafter
    · obtain ⟨hlands, rfl⟩ := h.lands_after hextent hafter
      have hquiet := h.quiet hextent.le_last
      refine ⟨last, true, hlands, Nat.le_refl _, ⟨last, g, Nat.le_refl _, hlast⟩, ?_⟩
      simp only [Bool.not_true, Bool.toNat_false]
      omega
    · obtain ⟨frame?, hnext⟩ : ∃ frame?, l.log[q + 1]? = some frame? :=
        ⟨_, List.getElem?_eq_getElem h.next⟩
      have hstep := arrived_take_succ hnext
      cases frame? with
      | some f' =>
        have hlands := h.lands_next hextent hbefore hnext
        rw [Option.isSome_some, Bool.toNat_true] at hstep
        refine ⟨q + 1, true, hlands, by omega, ⟨q + 1, f', Nat.le_refl _, hnext⟩, ?_⟩
        simp only [Bool.not_true, Bool.toNat_false]
        omega
      | none =>
        have hne : first ≠ q + 1 := by
          rintro rfl
          rw [hfirst] at hnext
          cases hnext
        have hne' : last ≠ q + 1 := by
          rintro rfl
          rw [hlast] at hnext
          cases hnext
        have hlands := h.lands_lost hextent (by omega) (by omega) hnext
        have hmono := arrived_take_mono l.log (show first + 1 ≤ q + 1 by omega)
        rw [Option.isSome_none, Bool.toNat_false] at hstep
        refine ⟨q + 1, false, hlands, by omega, ⟨last, g, hafter, hlast⟩, ?_⟩
        simp only [Bool.not_false, Bool.toNat_true]
        omega

/-! ## Ticks -/

theorem Supplied.turns (h : l.Supplied start) (pool : Pool) :
    l.capture.Turns l.store.device (l.tick pool).capture := by
  obtain ⟨rate, hrate, hne⟩ := h.rate
  exact h.steady.turns hrate hne (Capture.ticked_tickWith _ _ pool true _)

theorem Supplied.settled_tick (h : l.Supplied start) {hit : Bool} (hlands : l.Lands start q hit)
    (hprevious : l.outcome.2.previous = some l.outcome.1.time)
    (hreached : ∃ k f, q ≤ k ∧ l.log[k]? = some (some f))
    (hpaid : l.capture.counters.dropped + (!hit).toNat +
      max (arrived (l.log.take (q + 1))) l.givenUp ≤ q + 1)
    (hcounted : l.capture.counters.delivered + l.capture.counters.dropped + 1 = l.log.length)
    (pool : Pool) : (l.tick pool).Settled start q := by
  obtain ⟨htime, rfl⟩ := hlands
  have hturns := h.turns pool
  have hinterval : (l.tick pool).clock.interval = l.clock.interval :=
    congrArg CaptureSettings.interval hturns.settings
  have hdropped : (l.tick pool).capture.counters.dropped =
      l.capture.counters.dropped + (!l.outcome.1.fetch.isFound).toNat := hturns.dropped
  have hdelivered : (l.tick pool).capture.counters.delivered =
      l.capture.counters.delivered + l.outcome.1.fetch.isFound.toNat := hturns.delivered
  refine ⟨⟨hturns.steady, ?_, h.capacity_pos, ?_⟩, ?_, hreached, ?_, ?_⟩
  · rw [hturns.deviceId]
    exact h.rate
  · rw [hturns.deviceId, hinterval]
    exact h.kept
  · have hclock : (l.tick pool).clock.previous = l.outcome.2.previous := by
      show (l.tick pool).capture.clock.previous = _
      rw [hturns.clock]
      rfl
    rw [hclock, hprevious, htime, slotOf, slotOf, hinterval]
  · rw [hdropped]
    exact hpaid
  · have hlog : (l.tick pool).log = l.log := rfl
    rw [hdropped, hdelivered, hlog, ← hcounted]
    cases l.outcome.1.fetch.isFound <;> simp <;> omega

theorem Due.tick (h : l.Due start q) (pool : Pool) :
    ∃ r, q ≤ r ∧ (l.tick pool).Settled start r := by
  obtain ⟨r, hit, hlands, hqr, hreached, hpaid⟩ := h.exists_landing
  exact ⟨r, hqr, h.toSupplied.settled_tick hlands (Clock.previous_fetch_of_baseline h.previous)
    hreached hpaid h.counted pool⟩

/-- The first frame is the newest, and the clock starts with it. -/
theorem Supplied.first (h : l.Supplied start) {frame : Buffer} (hlog : l.log = [some frame])
    (hnew : l.clock.previous = none) (hcounters : l.capture.counters = {}) (pool : Pool) :
    (l.tick pool).Settled start 0 := by
  have hcame : arrived l.log ≠ 0 := by
    rw [hlog]
    exact Nat.one_ne_zero
  have hgiven : l.givenUp = 0 := by
    rw [givenUp, hlog]
    exact Nat.sub_eq_zero_of_le h.capacity_pos
  have hframe : l.log[0]? = some (some frame) := by rw [hlog]; rfl
  have hmem : (l.slotOf start 0, frame) ∈ l.frames start :=
    Pushes.mem_keep_gappy.mpr ⟨0, hframe, rfl, hgiven.le.trans (Nat.zero_le _)⟩
  have hserves := h.serves hcame
  have hnext : l.clock.nextTime (l.store.device.currentTime l.capture.deviceId) =
      l.slotOf start 0 := by
    obtain ⟨first, last, hextent⟩ :=
      Pushes.exists_extent start l.clock.interval h.capacity_pos hcame
    obtain ⟨f, hf⟩ := hextent.last_came
    have hlt := (List.getElem?_eq_some_iff.mp hf).1
    rw [hlog] at hlt
    obtain rfl : last = 0 := Nat.lt_one_iff.mp hlt
    rw [Clock.nextTime, hnew, hserves.current]
    exact hextent.newest
  obtain ⟨htime, hfetch⟩ := hserves.fetch_mem hnext hmem
  have hfound := congrArg Fetch.isFound hfetch
  refine h.settled_tick ⟨htime, hfound⟩ (Clock.previous_fetch_of_found hfound)
    ⟨0, frame, Nat.le_refl 0, hframe⟩ ?_ ?_ pool
  · rw [hgiven, hlog, hcounters]
    exact Nat.le_refl 1
  · rw [hlog, hcounters]
    rfl

/-! ## Runs -/

theorem Supplied.settings_round (h : l.Supplied start) (r : Round) :
    (l.round start r).capture.settings = l.capture.settings :=
  ((h.receive r.frame).turns r.pool).settings

theorem Settled.run (h : l.Settled start q) (rs : List Round) :
    (l.run start rs).capture.settings = l.capture.settings ∧
      ∃ p, q ≤ p ∧ (l.run start rs).Settled start p := by
  induction rs generalizing l q with
  | nil => exact ⟨rfl, q, Nat.le_refl q, h⟩
  | cons r rs ih =>
    obtain ⟨p, hqp, hp⟩ := (h.receive r.frame).tick r.pool
    obtain ⟨hsettings, p', hpp', hp'⟩ := ih hp
    exact ⟨hsettings.trans (h.settings_round r), p', Nat.le_trans hqp hpp', hp'⟩

theorem log_run (l : Lossy) (start : Nat) (rs : List Round) :
    (l.run start rs).log = l.log ++ rs.map Round.frame := by
  induction rs generalizing l with
  | nil => exact (List.append_nil _).symm
  | cons r rs ih =>
    have hround : (l.round start r).log = l.log ++ [r.frame] := rfl
    have hrun : l.run start (r :: rs) = (l.round start r).run start rs := rfl
    rw [hrun, ih, hround, List.append_assoc]
    rfl

theorem Settled.dropped_le (h : l.Settled start q) :
    l.capture.counters.dropped ≤ l.log.countP Option.isNone := by
  obtain ⟨k, f, hqk, hk⟩ := h.reached
  have hlt : k < l.log.length := (List.getElem?_eq_some_iff.mp hk).1
  have hpaid := h.paid
  have hlater : arrived l.log ≤ arrived (l.log.take (q + 1)) + (l.log.length - (q + 1)) := by
    have hsplit := arrived_append (l.log.take (q + 1)) (l.log.drop (q + 1))
    rw [List.take_append_drop] at hsplit
    rw [hsplit, ← List.length_drop]
    exact Nat.add_le_add_left (arrived_le_length _) _
  have hlost := arrived_add_lost l.log
  omega

theorem supplied_start (start : Nat) {history : Nat} {cs : List (Change Buffer)} {d : DeviceId}
    {rate : UInt32} {name : String} {settings : CaptureSettings} {capture : Capture}
    (hempty : pushedSince d cs = some [])
    (hrate : ((FrameStore.keeping history).run cs).sampleRate? d = some rate) (hne : rate ≠ 0)
    (hcapture : Capture.ofSettings name d true settings = .ok capture) :
    Supplied start { store := (FrameStore.keeping history).run cs, capture } ∧
      capture.settings = settings ∧ capture.clock.previous = none ∧ capture.counters = {} := by
  have hsteady := Capture.steady_ofSettings hcapture
  obtain ⟨hdevice, hrest⟩ : capture.deviceId = d ∧ capture.settings = settings ∧
      capture.clock.previous = none ∧ capture.counters = {} := by
    unfold Capture.ofSettings at hcapture
    split at hcapture
    · cases hcapture
    · cases hcapture
      exact ⟨rfl, rfl, rfl, rfl⟩
  have hcapacity : ((FrameStore.keeping history).run cs).capacity = max history 1 :=
    FrameStore.capacity_run _ cs
  have hkept := FrameStore.kept_keeping history cs d
  rw [hempty, ← hcapacity, ← hdevice] at hkept
  rw [← hdevice] at hrate
  exact ⟨⟨hsteady, ⟨rate, hrate, hne⟩, hcapacity ▸ Nat.le_max_right history 1, hkept⟩, hrest⟩

end Lossy

/--
Whatever frames of a device get lost, and however few it keeps, a capture that is ticked once an
interval drops at most one tick for each of them. All other ticks deliver a frame, and the
baseline goes neither back nor beyond the newest frame that came.
-/
theorem dropped_le_lost {history : Nat} {cs : List (Change Buffer)} {d : DeviceId} {rate : UInt32}
    {name : String} {settings : CaptureSettings} {capture : Capture}
    (hempty : pushedSince d cs = some [])
    (hrate : ((FrameStore.keeping history).run cs).sampleRate? d = some rate) (hne : rate ≠ 0)
    (hcapture : Capture.ofSettings name d true settings = .ok capture) (start : Nat)
    (frame : Buffer) (pool : Pool) (rs : List Round) :
    let l := Lossy.run { store := (FrameStore.keeping history).run cs, capture } start
      (⟨some frame, pool⟩ :: rs)
    l.capture.counters.dropped ≤ rs.countP (·.frame.isNone) ∧
      l.capture.counters.delivered + l.capture.counters.dropped = rs.length + 1 ∧
      ∃ p, l.capture.clock.previous = some p ∧
        (∃ k f, (some frame :: rs.map Round.frame)[k]? = some (some f) ∧
          p ≤ slot start settings.interval k) ∧
        ∀ r, ∃ p', (l.round start r).capture.clock.previous = some p' ∧ p ≤ p' := by
  intro l
  obtain ⟨hsupplied, hsettings, hnew, hcounters⟩ :=
    Lossy.supplied_start start hempty hrate hne hcapture
  have hfirst := (hsupplied.receive (some frame)).first rfl hnew hcounters pool
  obtain ⟨hsame, q, -, hsettled⟩ : l.capture.settings = _ ∧ ∃ q, 0 ≤ q ∧ l.Settled start q :=
    hfirst.run rs
  have hlog : l.log = some frame :: rs.map Round.frame := Lossy.log_run _ start _
  have hinterval : l.clock.interval = settings.interval := by
    rw [← hsettings]
    exact congrArg CaptureSettings.interval
      (hsame.trans (hsupplied.settings_round ⟨some frame, pool⟩))
  have hcounted := hsettled.counted
  obtain ⟨k, f, hqk, hk⟩ := hsettled.reached
  rw [hlog, List.length_cons, List.length_map] at hcounted
  refine ⟨?_, hcounted, l.slotOf start q, hsettled.previous, ⟨k, f, hlog ▸ hk, ?_⟩, fun r => ?_⟩
  · have hdropped := hsettled.dropped_le
    rwa [hlog, List.countP_cons, List.countP_map] at hdropped
  · rw [← hinterval]
    exact (slot_strictMono start hsettled.interval_pos).monotone hqk
  · obtain ⟨p, hqp, hp⟩ := (hsettled.receive r.frame).tick r.pool
    refine ⟨_, hp.previous, ?_⟩
    have hnext : (l.round start r).clock.interval = l.clock.interval :=
      congrArg CaptureSettings.interval (hsettled.settings_round r)
    show l.slotOf start q ≤ slot start (l.round start r).clock.interval p
    rw [hnext]
    exact (slot_strictMono start hsettled.interval_pos).monotone hqp

/-- Four frames are lost in a row, and a clock that walks step by step drops three ticks. -/
theorem dropped_le_lost_in_a_row :
    let cs : List (Change Buffer) := [.add ⟨1⟩ "mic" (some 8000)]
    let came : Round := ⟨some ⟨0⟩, .empty⟩
    let lost : Round := ⟨none, .empty⟩
    let rs := [lost, lost, lost, lost, came, came, came, came]
    ∃ capture, Capture.ofSettings "mic" ⟨1⟩ true { maxSteps := 1 } = .ok capture ∧
      let l := Lossy.run { store := (FrameStore.keeping 1).run cs, capture } 1000 (came :: rs)
      l.capture.counters.dropped = 3 ∧ rs.countP (·.frame.isNone) = 4 ∧
        l.capture.counters.dropped ≤ rs.countP (·.frame.isNone) ∧
        l.capture.counters.delivered + l.capture.counters.dropped = 9 := by
  intro cs came lost rs
  obtain ⟨capture, hcapture⟩ :
      ∃ capture, Capture.ofSettings "mic" ⟨1⟩ true { maxSteps := 1 } = .ok capture := ⟨_, rfl⟩
  have hempty : pushedSince ⟨1⟩ cs = some [] := rfl
  have hrate : ((FrameStore.keeping 1).run cs).sampleRate? ⟨1⟩ = some 8000 := rfl
  obtain ⟨hdropped, hcounted, -⟩ :=
    dropped_le_lost hempty hrate (by decide) hcapture 1000 ⟨0⟩ .empty rs
  refine ⟨capture, hcapture, ?_, by decide, hdropped, hcounted⟩
  cases hcapture
  decide

end MediaSession
