import Mathlib.Algebra.Order.Floor.Div
import Mathlib.Tactic.LinearCombination
import Mathlib.Tactic.Zify
import MediaSession.Proofs.Capture.Live

/-!
# MediaSession.Proofs.Capture.Jump

A device whose time jumps by whole intervals, forward or back, and starts again without frames.
Each fetch that fails brings the clock nearer to the frames by a whole walk, although they go on.

* `Live.rounds`: one push and one fetch after the other
* `Live.Within`: the next request lies at most so many intervals outside of the frames
* `recovers_from_jump`: how many fetches fail, and that none does after the first that succeeds
-/

namespace MediaSession

namespace Live

variable {β : Type}

def rounds (l : Live β) (d : DeviceId) (start : Nat) (frames : List β) : Live β :=
  frames.foldl (fun l frame => (l.push d start frame).fetch d) l

/-- Which fetches found a frame, in their order. -/
def hits (l : Live β) : List Bool := (l.fetched.map fun s => s.fetch.isFound).reverse

theorem rounds_cons (l : Live β) (d : DeviceId) (start : Nat) (frame : β) (frames : List β) :
    l.rounds d start (frame :: frames) =
      ((l.push d start frame).fetch d).rounds d start frames := rfl

theorem hits_fetch (l : Live β) (d : DeviceId) :
    (l.fetch d).hits = l.hits ++ [(l.outcome d).1.fetch.isFound] := by
  rw [hits, hits, ← List.reverse_cons]
  rfl

/-- The first frame that is there after the next push. -/
def nextOldest (l : Live β) : Nat := l.pushed.length + 1 - l.store.capacity

/--
The clock of a device that holds the newest of its feed. Its next request is for place `x` of the
feed, which may lie before the first frame, and at most `gap` places outside of those that are
there after the next push.
-/
structure Within (d : DeviceId) (start gap : Nat) (l : Live β) : Prop where
  interval_pos : 1 ≤ l.clock.interval
  capacity_pos : 1 ≤ l.store.capacity
  kept : FrameStore.Kept l.store.capacity (l.store.track? d)
    (some (Pushes.feed start l.clock.interval l.pushed))
  near : ∃ (p : Nat) (x : Int), l.clock.previous = some p ∧
    (p : Int) + l.clock.interval = start + x * l.clock.interval ∧
    l.nextOldest ≤ x + gap ∧ x ≤ l.pushed.length + gap

variable {d : DeviceId} {start gap : Nat} {l : Live β}

/-! ## One round -/

/-- The frames that the fetch after a push finds. -/
def nextFrames (l : Live β) (start : Nat) (frame : β) : History β :=
  History.keep l.store.capacity (Pushes.feed start l.clock.interval (l.pushed ++ [frame]))

theorem Within.serves (h : l.Within d start gap) (frame : β) :
    Serves (l.push d start frame).store.device d (l.nextFrames start frame) := by
  have hkept := kept_push frame h.kept
  rw [capacity_push] at hkept
  refine Serves.of_kept hkept (Pushes.ascending_feed h.interval_pos _) h.capacity_pos ?_
  rw [← List.length_pos_iff, Pushes.length_feed]
  simp

theorem Within.oldest_nextFrames (h : l.Within d start gap) (frame : β) :
    (l.nextFrames start frame).oldest = l.slotOf start l.nextOldest := by
  rw [nextFrames, Pushes.oldest_keep_feed h.capacity_pos (by simp), List.length_append]
  rfl

theorem Within.newest_nextFrames (h : l.Within d start gap) (frame : β) :
    (l.nextFrames start frame).newest = l.slotOf start l.pushed.length := by
  rw [nextFrames, Pushes.newest_keep_feed h.capacity_pos (by simp), List.length_append]
  rfl

theorem exists_mem_nextFrames (start : Nat) (frame : β) {k : Nat} (hlow : l.nextOldest ≤ k)
    (hhigh : k ≤ l.pushed.length) : ∃ f, (l.slotOf start k, f) ∈ l.nextFrames start frame := by
  have hlt : k < (l.pushed ++ [frame]).length := by
    rw [List.length_append]
    exact Nat.lt_succ_of_le hhigh
  refine ⟨(l.pushed ++ [frame])[k], Pushes.mem_keep_feed.mpr ⟨k, ?_, ?_, rfl⟩⟩
  · rw [List.length_append]
    exact hlow
  · exact List.getElem?_eq_getElem hlt

/-- The fetch after a push ends at a place of the feed, with a frame or without. -/
def Lands (l : Live β) (d : DeviceId) (start : Nat) (frame : β) (y : Int) (hit : Bool) : Prop :=
  (((l.push d start frame).outcome d).1.time : Int) = start + y * l.clock.interval ∧
    ((l.push d start frame).outcome d).1.fetch.isFound = hit

section Landing

variable {p : Nat} {x : Int} (hp : l.clock.previous = some p)
  (hplace : (p : Int) + l.clock.interval = start + x * l.clock.interval)

include hp hplace

theorem Within.lands_before (h : l.Within d start gap) (frame : β) (hx : x < l.nextOldest) :
    ∃ y hit, l.Lands d start frame y hit ∧
      (hit = true ∧ y = l.nextOldest ∨
        hit = false ∧ y = x + l.clock.maxSteps ∧ y < l.nextOldest) := by
  obtain ⟨n, hn⟩ : ∃ n : Nat, (n : Int) = l.nextOldest - x := ⟨_, Int.toNat_of_nonneg (by omega)⟩
  have hr := Clock.nextTime_of_previous hp ((l.push d start frame).store.device.currentTime d)
  have htoward : p + l.clock.interval + n * l.clock.interval =
      (l.nextFrames start frame).oldest := by
    rw [h.oldest_nextFrames, slotOf, slot]
    zify
    rw [hn]
    linear_combination hplace
  obtain ⟨htime, hfound⟩ := (h.serves frame).fetch_before h.interval_pos hr (by omega) htoward
  refine ⟨x + (min n l.clock.maxSteps : Nat), decide (n ≤ l.clock.maxSteps), ⟨?_, ?_⟩, ?_⟩
  · rw [outcome, show (l.push d start frame).clock = l.clock from rfl, htime]
    push_cast
    linear_combination hplace
  · exact Bool.eq_iff_iff.mpr (hfound.trans (by rw [decide_eq_true_eq]))
  · rcases Nat.lt_or_ge l.clock.maxSteps n with hfar | hnear
    · refine .inr ⟨decide_eq_false (by omega), ?_, ?_⟩ <;> omega
    · refine .inl ⟨decide_eq_true hnear, ?_⟩
      omega

theorem Within.lands_after (h : l.Within d start gap) (frame : β) (hx : l.pushed.length < x) :
    ∃ y hit, l.Lands d start frame y hit ∧
      (hit = true ∧ y = l.pushed.length ∨
        hit = false ∧ y = x - l.clock.maxSteps ∧ l.pushed.length < y) := by
  obtain ⟨n, hn⟩ : ∃ n : Nat, (n : Int) = x - l.pushed.length :=
    ⟨_, Int.toNat_of_nonneg (by omega)⟩
  have hr := Clock.nextTime_of_previous hp ((l.push d start frame).store.device.currentTime d)
  have htoward : p + l.clock.interval =
      (l.nextFrames start frame).newest + n * l.clock.interval := by
    rw [h.newest_nextFrames, slotOf, slot]
    zify
    rw [hn]
    linear_combination hplace
  obtain ⟨htime, hfound⟩ := (h.serves frame).fetch_after h.interval_pos hr (by omega) htoward
  refine ⟨x - (min n l.clock.maxSteps : Nat), decide (n ≤ l.clock.maxSteps), ⟨?_, ?_⟩, ?_⟩
  · have htime : (((l.push d start frame).outcome d).1.time : Int) +
        (min n l.clock.maxSteps : Nat) * l.clock.interval = p + l.clock.interval := mod_cast htime
    linear_combination htime + hplace
  · exact Bool.eq_iff_iff.mpr (hfound.trans (by rw [decide_eq_true_eq]))
  · rcases Nat.lt_or_ge l.clock.maxSteps n with hfar | hnear
    · refine .inr ⟨decide_eq_false (by omega), ?_, ?_⟩ <;> omega
    · refine .inl ⟨decide_eq_true hnear, ?_⟩
      omega

theorem Within.lands_among (h : l.Within d start gap) (frame : β) (hlow : l.nextOldest ≤ x)
    (hhigh : x ≤ l.pushed.length) : l.Lands d start frame x true := by
  obtain ⟨k, rfl⟩ : ∃ k : Nat, (k : Int) = x := ⟨_, Int.toNat_of_nonneg (by omega)⟩
  obtain ⟨f, hf⟩ := exists_mem_nextFrames start frame (Int.ofNat_le.mp hlow)
    (Int.ofNat_le.mp hhigh)
  have hr : l.clock.nextTime ((l.push d start frame).store.device.currentTime d) =
      l.slotOf start k := by
    rw [Clock.nextTime_of_previous hp, slotOf, slot]
    exact_mod_cast hplace
  obtain ⟨htime, hfetch⟩ := (h.serves frame).fetch_mem hr hf
  refine ⟨?_, ?_⟩
  · rw [outcome, show (l.push d start frame).clock = l.clock from rfl, htime, slotOf, slot]
    push_cast
    rfl
  · exact congrArg Fetch.isFound hfetch

end Landing

/-- A fetch that finds nothing ends nearer to the frames by a whole walk. -/
theorem Within.exists_landing (h : l.Within d start gap) (frame : β) :
    ∃ y hit, l.Lands d start frame y hit ∧
      (hit = true ∧ l.nextOldest ≤ y ∧ y ≤ l.pushed.length ∨
        hit = false ∧ l.clock.maxSteps < gap ∧
          l.nextOldest ≤ y + (gap - l.clock.maxSteps : Nat) ∧
          y ≤ l.pushed.length + (gap - l.clock.maxSteps : Nat)) := by
  obtain ⟨p, x, hp, hplace, hlow, hhigh⟩ := h.near
  have hlen : l.nextOldest ≤ l.pushed.length := by
    have hcapacity := h.capacity_pos
    rw [nextOldest]
    omega
  rcases lt_or_ge x l.nextOldest with hbefore | hbefore
  · obtain ⟨y, hit, hlands, ⟨hhit, rfl⟩ | ⟨hhit, rfl, hy⟩⟩ := h.lands_before hp hplace frame hbefore
    · exact ⟨_, hit, hlands, .inl ⟨hhit, by omega, by omega⟩⟩
    · exact ⟨_, hit, hlands, .inr ⟨hhit, by omega, by omega, by omega⟩⟩
  · rcases lt_or_ge (l.pushed.length : Int) x with hafter | hafter
    · obtain ⟨y, hit, hlands, ⟨hhit, rfl⟩ | ⟨hhit, rfl, hy⟩⟩ := h.lands_after hp hplace frame hafter
      · exact ⟨_, hit, hlands, .inl ⟨hhit, by omega, by omega⟩⟩
      · exact ⟨_, hit, hlands, .inr ⟨hhit, by omega, by omega, by omega⟩⟩
    · exact ⟨x, true, h.lands_among hp hplace frame hbefore hafter, .inl ⟨rfl, hbefore, hafter⟩⟩

theorem Within.round (h : l.Within d start gap) (frame : β) :
    ∃ hit, ((l.push d start frame).fetch d).hits = l.hits ++ [hit] ∧
      (hit = true ∧ ((l.push d start frame).fetch d).Within d start 0 ∨
        hit = false ∧ l.clock.maxSteps < gap ∧
          ((l.push d start frame).fetch d).Within d start (gap - l.clock.maxSteps)) := by
  obtain ⟨p, -, hp, -⟩ := h.near
  obtain ⟨y, hit, ⟨htime, hfound⟩, hcases⟩ := h.exists_landing frame
  have hhits : ((l.push d start frame).fetch d).hits = l.hits ++ [hit] := by
    rw [hits_fetch, hfound]
    rfl
  have hcapacity := capacity_push l d start frame
  have hprevious : ((l.push d start frame).fetch d).clock.previous =
      some ((l.push d start frame).outcome d).1.time := Clock.previous_fetch_of_baseline hp
  -- the next request is for the place after the one at which this fetch ended
  have hwithin : ∀ gap' : Nat, l.nextOldest ≤ y + gap' → y ≤ l.pushed.length + gap' →
      ((l.push d start frame).fetch d).Within d start gap' := by
    intro gap' hlow hhigh
    refine ⟨h.interval_pos, hcapacity ▸ h.capacity_pos, kept_push frame h.kept, _, y + 1,
      hprevious, ?_, ?_, ?_⟩
    · show _ + (l.clock.interval : Int) = _ + _ * (l.clock.interval : Int)
      linear_combination htime
    · show (((l.pushed ++ [frame]).length + 1 - (l.push d start frame).store.capacity : Nat) : Int)
        ≤ _
      rw [hcapacity, List.length_append, List.length_singleton]
      rw [nextOldest] at hlow
      omega
    · show y + 1 ≤ ((l.pushed ++ [frame]).length : Int) + _
      rw [List.length_append, List.length_singleton]
      omega
  refine ⟨hit, hhits, ?_⟩
  rcases hcases with ⟨hhit, hlow, hhigh⟩ | ⟨hmiss, hfar, hlow, hhigh⟩
  · exact .inl ⟨hhit, hwithin 0 (by omega) (by omega)⟩
  · exact .inr ⟨hmiss, hfar, hwithin _ hlow hhigh⟩

/-! ## Many rounds -/

/-- By induction on the rounds; every walk that fails takes its length from the gap. -/
theorem Within.hits_rounds (h : l.Within d start gap) (frames : List β) :
    ∃ misses found, (l.rounds d start frames).hits =
        l.hits ++ (List.replicate misses false ++ List.replicate found true) ∧
      misses + found = frames.length ∧ (misses = 0 ∨ misses * l.clock.maxSteps < gap) := by
  induction frames generalizing l gap with
  | nil => exact ⟨0, 0, by simp [rounds], rfl, .inl rfl⟩
  | cons frame frames ih =>
    obtain ⟨hit, hhits, ⟨rfl, hnear⟩ | ⟨rfl, hfar, hnearer⟩⟩ := h.round frame
    · obtain ⟨misses, found, hrest, hlength, hpaid⟩ := ih hnear
      have hzero : misses = 0 := hpaid.resolve_right (Nat.not_lt_zero _)
      subst hzero
      refine ⟨0, found + 1, ?_, by simp [← hlength], .inl rfl⟩
      rw [rounds_cons, hrest, hhits, List.append_assoc]
      rfl
    · obtain ⟨misses, found, hrest, hlength, hpaid⟩ := ih hnearer
      have hsame : ((l.push d start frame).fetch d).clock.maxSteps = l.clock.maxSteps := rfl
      refine ⟨misses + 1, found, ?_, by rw [List.length_cons]; omega, .inr ?_⟩
      · rw [rounds_cons, hrest, hhits, List.append_assoc]
        rfl
      · rw [Nat.succ_mul]
        rcases hpaid with rfl | hpaid
        · omega
        · rw [hsame] at hpaid
          omega

/-- A device that has been cleared is there, without frames. -/
theorem kept_clear (history : Nat) {cs : List (Change β)}
    (hadded : (pushedSince d cs).isSome = true) :
    let s := ((FrameStore.keeping history).run cs).apply (.clear d)
    1 ≤ s.capacity ∧ FrameStore.Kept s.capacity (s.track? d) (some []) := by
  intro s
  obtain ⟨ps, hps⟩ := Option.isSome_iff_exists.mp hadded
  have hcapacity : s.capacity = max history 1 := by
    rw [FrameStore.capacity_apply, FrameStore.capacity_run]
    rfl
  have hkept := FrameStore.kept_keeping history (cs ++ [.clear d]) d
  have hnone : pushedSince d (cs ++ [.clear d]) = some [] := by
    simp only [pushedSince, pushedAfter, List.foldl_append] at hps ⊢
    rw [hps]
    simp [Change.device, Change.record]
  rw [hnone, FrameStore.run, List.foldl_append] at hkept
  rw [hcapacity]
  exact ⟨Nat.le_max_right history 1, hkept⟩

theorem within_clear (history : Nat) {p : Nat} {cs : List (Change β)} {clock : Clock} {jump : Int}
    (hadded : (pushedSince d cs).isSome = true) (hinterval : 1 ≤ clock.interval)
    (hprevious : clock.previous = some p)
    (hstart : (start : Int) = p + clock.interval + jump * clock.interval) :
    Within d start jump.natAbs
      { store := ((FrameStore.keeping history).run cs).apply (.clear d), clock } := by
  obtain ⟨hcapacity, hkept⟩ := kept_clear history hadded
  refine ⟨hinterval, hcapacity, hkept, p, -jump, hprevious, ?_, ?_, ?_⟩
  · linear_combination -hstart
  · show ((0 + 1 - (((FrameStore.keeping history).run cs).apply (.clear d)).capacity : Nat) : Int) ≤
      -jump + jump.natAbs
    omega
  · show -jump ≤ ((0 : Nat) : Int) + jump.natAbs
    omega

end Live

/--
However far a device has jumped by whole intervals, and whatever it buffered before, a clock that
had a baseline fails at most as many fetches as full walks leave of the distance, and has found
the device for good with the first fetch that succeeds.
-/
theorem recovers_from_jump {β : Type} {history p start : Nat} {cs : List (Change β)}
    {d : DeviceId} {clock : Clock} {jump : Int} (hadded : (pushedSince d cs).isSome = true)
    (hinterval : 1 ≤ clock.interval) (hsteps : 1 ≤ clock.maxSteps)
    (hprevious : clock.previous = some p)
    (hstart : (start : Int) = p + clock.interval + jump * clock.interval) (frames : List β) :
    ∃ misses found,
      (Live.rounds
        { store := ((FrameStore.keeping history).run cs).apply (.clear d), clock }
        d start frames).hits = List.replicate misses false ++ List.replicate found true ∧
      misses + found = frames.length ∧ (jump = 0 → misses = 0) ∧
      (jump ≠ 0 → misses + 1 ≤ jump.natAbs ⌈/⌉ clock.maxSteps) := by
  have hwithin := Live.within_clear history hadded hinterval hprevious hstart
  obtain ⟨misses, found, hhits, hlength, hpaid⟩ := hwithin.hits_rounds frames
  refine ⟨misses, found, hhits, hlength, fun hjump => ?_, fun hjump => ?_⟩
  · subst hjump
    exact hpaid.resolve_right (Nat.not_lt_zero _)
  · by_contra hmany
    have hfew : jump.natAbs ≤ clock.maxSteps • misses :=
      (ceilDiv_le_iff_le_smul hsteps).mp (Nat.le_of_lt_succ (Nat.lt_of_not_le hmany))
    rw [smul_eq_mul, Nat.mul_comm] at hfew
    rcases hpaid with rfl | hpaid
    · omega
    · exact Nat.not_lt_of_le hfew hpaid

/-- Two full walks forward fail, and a third, shorter one finds the device. -/
theorem recovers_from_jump_two_walks :
    let cs : List (Change Nat) := [.add ⟨1⟩ "mic" none, .push ⟨1⟩ 1000 0]
    let clock : Clock := { previous := some 1000, interval := 10, maxSteps := 2 }
    let l : Live Nat :=
      { store := ((FrameStore.keeping 1).run cs).apply (.clear ⟨1⟩), clock }
    (l.rounds ⟨1⟩ 1060 [1, 2, 3, 4]).hits = [false, false, true, true] ∧
      ∃ misses found, (l.rounds ⟨1⟩ 1060 [1, 2, 3, 4]).hits =
          List.replicate misses false ++ List.replicate found true ∧
        misses + found = 4 ∧ misses + 1 ≤ 3 := by
  intro cs clock l
  obtain ⟨misses, found, hhits, hlength, -, hmisses⟩ :=
    @recovers_from_jump Nat 1 1000 1060 cs ⟨1⟩ clock 5 rfl (by decide) (by decide) rfl (by decide)
      [1, 2, 3, 4]
  rw [Nat.ceilDiv_eq_add_pred_div] at hmisses
  have hfew : misses + 1 ≤ (5 + 2 - 1) / 2 := hmisses (by decide)
  exact ⟨by decide, misses, found, hhits, hlength, by omega⟩

end MediaSession
