import MediaSession.Device.FrameStore
import MediaSession.Proofs.Device.Pushes
import MediaSession.Proofs.Keyed

/-!
# MediaSession.Proofs.Device.Store

What becomes of a frame store through any sequence of changes.

* `Change`, `FrameStore.run`: the changes of a store, and a sequence of them
* `pushedSince`: the pushes to a device since it was last added or cleared
* `track?_apply`: a change acts on its device alone
* `kept_keeping`: the frames of a device are the newest of those that were pushed to it
-/

namespace MediaSession

/-- What can be done to a frame store. -/
inductive Change (β : Type) where
  | add (d : DeviceId) (name : String) (sampleRate : Option UInt32)
  | remove (d : DeviceId)
  | setRate (d : DeviceId) (sampleRate : Option UInt32)
  | push (d : DeviceId) (time : Nat) (frame : β)
  | clear (d : DeviceId)

namespace Change

variable {β : Type}

def device : Change β → DeviceId
  | add d _ _ => d
  | remove d => d
  | setRate d _ => d
  | push d _ _ => d
  | clear d => d

/-- What a change makes of its device. -/
def effect (capacity : Nat) : Change β → Option (Track β) → Option (Track β)
  | add _ name sampleRate, _ => some { name, sampleRate }
  | remove _, _ => none
  | setRate _ sampleRate, t => t.map fun t => { t with sampleRate }
  | push _ time frame, t => t.map fun t => { t with frames := t.frames.push capacity time frame }
  | clear _, t => t.map fun t => { t with frames := [] }

/-- What a change makes of the pushes since the device was added or cleared. -/
def record : Change β → Option (Pushes β) → Option (Pushes β)
  | add _ _ _, _ => some []
  | remove _, _ => none
  | setRate _ _, ps => ps
  | push _ time frame, ps => ps.map (· ++ [(time, frame)])
  | clear _, ps => ps.map fun _ => []

end Change

/-- The pushes to a device after some changes, given those before; none if it is not registered. -/
def pushedAfter {β : Type} (d : DeviceId) (ps : Option (Pushes β)) (cs : List (Change β)) :
    Option (Pushes β) :=
  cs.foldl (fun ps c => if c.device = d then c.record ps else ps) ps

/-- The pushes to a device since it was last added or cleared, in a store that was empty. -/
def pushedSince {β : Type} (d : DeviceId) (cs : List (Change β)) : Option (Pushes β) :=
  pushedAfter d none cs

namespace FrameStore

variable {β : Type}

/-- A change that fails leaves the store as it is. -/
def apply (s : FrameStore β) : Change β → FrameStore β
  | .add d name sampleRate => s.add d name sampleRate
  | .remove d => (s.remove d).2
  | .setRate d sampleRate => (s.setRate d sampleRate).toOption.getD s
  | .push d time frame => (s.push d time frame).toOption.getD s
  | .clear d => s.clear d

def run (s : FrameStore β) (cs : List (Change β)) : FrameStore β := cs.foldl apply s

/-! ## One change -/

theorem track?_without (s : FrameStore β) (d e : DeviceId) :
    (s.without d).track? e = if d = e then none else s.track? e :=
  Keyed.lookup_without s.tracks d e

theorem track?_modify (s : FrameStore β) (d e : DeviceId) (change : Track β → Track β) :
    (s.modify d change).track? e = if d = e then (s.track? e).map change else s.track? e :=
  Keyed.lookup_change s.tracks d e change

theorem modify?_toOption (s : FrameStore β) (d e : DeviceId) (change : Track β → Track β) :
    ((s.modify? d change).toOption.getD s).track? e =
      if d = e then (s.track? e).map change else s.track? e := by
  unfold modify?
  split
  · exact track?_modify s d e change
  · rename_i hnone
    have hd : s.track? d = none := by simpa using hnone
    by_cases he : d = e
    · subst he
      simp [Except.toOption, hd]
    · simp [Except.toOption, he]

/-- A change does to its device what it is to do, and nothing to any other. -/
theorem track?_apply (s : FrameStore β) (c : Change β) (d : DeviceId) :
    (s.apply c).track? d =
      if c.device = d then c.effect s.capacity (s.track? d) else s.track? d := by
  cases c with
  | add e name sampleRate =>
    by_cases he : e = d
    · simp [apply, add, track?, Change.device, Change.effect, he]
    · have hlookup : (s.add e name sampleRate).track? d = (s.without e).track? d :=
        Keyed.lookup_cons_of_ne (Ne.symm he) _ _
      rw [apply, hlookup, track?_without, if_neg he, Change.device, if_neg he]
  | remove e => exact track?_without s e d
  | setRate e sampleRate => exact modify?_toOption s e d _
  | push e time frame => exact modify?_toOption s e d _
  | clear e => exact track?_modify s e d _

theorem capacity_apply (s : FrameStore β) (c : Change β) : (s.apply c).capacity = s.capacity := by
  have hmodify : ∀ d change, ((s.modify? d change).toOption.getD s).capacity = s.capacity := by
    intro d change
    unfold modify?
    split <;> rfl
  cases c with
  | add e name sampleRate => rfl
  | remove e => rfl
  | setRate e sampleRate => exact hmodify _ _
  | push e time frame => exact hmodify _ _
  | clear e => rfl

theorem sampleRate?_push (s : FrameStore β) (d e : DeviceId) (time : Nat) (frame : β) :
    (s.apply (.push e time frame)).sampleRate? d = s.sampleRate? d := by
  unfold sampleRate?
  rw [track?_apply]
  split
  · cases s.track? d <;> rfl
  · rfl

/-! ## Runs -/

theorem capacity_run (s : FrameStore β) (cs : List (Change β)) :
    (s.run cs).capacity = s.capacity := by
  induction cs generalizing s with
  | nil => rfl
  | cons c cs ih => exact (ih (s.apply c)).trans (capacity_apply s c)

/-- The frames of a device are the newest of those that were pushed to it. -/
def Kept (n : Nat) (t : Option (Track β)) (ps : Option (Pushes β)) : Prop :=
  t.map Track.frames = ps.map fun ps => History.keep n ps.total

theorem kept_effect (n : Nat) (c : Change β) {t : Option (Track β)} {ps : Option (Pushes β)}
    (h : Kept n t ps) : Kept n (c.effect n t) (c.record ps) := by
  unfold Kept at h ⊢
  cases c with
  | add d name sampleRate => simp [Change.effect, Change.record, Pushes.total, History.keep]
  | remove d => rfl
  | setRate d sampleRate =>
    rw [Change.record, ← h]
    simp [Change.effect, Function.comp_def]
  | push d time frame =>
    have hpush : (t.map Track.frames).map (·.push n time frame) =
        ps.map fun ps => History.keep n (Pushes.total (ps ++ [(time, frame)])) := by
      rw [h, Option.map_map]
      simp [Function.comp_def, Pushes.push_keep_total]
    simpa [Change.effect, Change.record, Function.comp_def] using hpush
  | clear d =>
    have hclear : (t.map Track.frames).map (fun _ => ([] : History β)) = ps.map fun _ => [] := by
      rw [h, Option.map_map]
      rfl
    simpa [Change.effect, Change.record, Function.comp_def, Pushes.total, History.keep] using hclear

theorem kept_apply (s : FrameStore β) (c : Change β) (d : DeviceId) {ps : Option (Pushes β)}
    (h : Kept s.capacity (s.track? d) ps) :
    Kept (s.apply c).capacity ((s.apply c).track? d)
      (if c.device = d then c.record ps else ps) := by
  rw [capacity_apply, track?_apply]
  split
  · exact kept_effect _ c h
  · exact h

theorem kept_run (cs : List (Change β)) (s : FrameStore β) (d : DeviceId)
    {ps : Option (Pushes β)} (h : Kept s.capacity (s.track? d) ps) :
    Kept s.capacity ((s.run cs).track? d) (pushedAfter d ps cs) := by
  induction cs generalizing s ps with
  | nil => exact h
  | cons c cs ih =>
    have hrest := ih (s.apply c) (kept_apply s c d h)
    rwa [capacity_apply] at hrest

theorem kept_keeping (history : Nat) (cs : List (Change β)) (d : DeviceId) :
    Kept (max history 1) (((keeping history).run cs).track? d) (pushedSince d cs) :=
  kept_run cs (keeping history) d rfl

end FrameStore
end MediaSession
